/-
The parameters that a block lists.

A pattern that has no braces of its own binds the names behind the colons of its
segments, and the block lists them in that order, one line each, with what the
request type says about them; behind them the request itself has its line, and no
other line of the block is one of a parameter (`annotate_params`). The lead in
front of the path adds no placeholder as long as it has no brace.
-/
import RouteDoc.Proofs.Generator.RouteLines
import RouteDoc.Proofs.Router.Segments

namespace RouteDoc

/-! ## Placeholders of a route -/

namespace Route

variable {g : Groups} {source name : String} {site : CallSite}

theorem properArguments_of_mem_sitesFrom {before : Option Char} {skip : Nat} {s : List Char}
    (h : site ∈ sitesFrom g before skip s) : site.ProperArguments := by
  induction s generalizing before skip with
  | nil => cases skip <;> cases h
  | cons c s ih =>
    cases skip with
    | succ skip => exact ih h
    | zero =>
      rw [sitesFrom] at h
      split at h
      · rename_i found hfound
        rcases List.mem_cons.1 h with rfl | h
        · split at hfound
          · rcases Option.or_eq_some_iff.1 hfound with hsite | ⟨-, hsite⟩
            · exact (siteOf_eq_some_iff.1 hsite).2.1
            · exact (siteOf_eq_some_iff.1 hsite).2.1
          · cases hfound
        · exact ih h
      · exact ih h

/-- A registered handler is named by a word. -/
theorem isWord_of_lastSite (hsite : lastSite g source name = some site) : IsWord name.toList := by
  have hmem := List.mem_filter.1 (List.mem_of_getLast? hsite)
  have hname : String.ofList site.handler = name := by simpa using hmem.2
  rw [← hname, String.toList_ofList]
  exact (properArguments_of_mem_sitesFrom hmem.1).handler

theorem resolve_lastSite (lead : CodeText) (hsite : lastSite g source name = some site) :
    resolve (parseRoutes g source) lead name = withLead lead (site.route g) := by
  rw [resolve, get?_parseRoutes, hsite]
  rfl

/-- A lead without braces adds no placeholder. -/
theorem placeholders_withLead {lead : CodeText} (hlead : .char '{' ∉ lead) (r : Route) :
    placeholders (withLead lead r).path = placeholders r.path := by
  rw [withLead_path]
  split
  · rfl
  · rw [placeholders, placeholders, placeholdersFrom_pass hlead]

/-- The placeholders of a registered handler are the names that its pattern binds. -/
theorem placeholders_resolve {lead : CodeText} (hsite : lastSite g source name = some site)
    (hopen : '{' ∉ site.pattern) (hclose : '}' ∉ site.pattern) (hlead : .char '{' ∉ lead) :
    placeholders (resolve (parseRoutes g source) lead name).path =
      (boundNames site.pattern).map CodeText.ofChars := by
  rw [resolve_lastSite lead hsite, placeholders_withLead hlead, CallSite.route, CodeText.ofString_ofList,
    placeholders_canonical hopen hclose]

theorem Verb.method_eq_get_iff (v : Verb) : v.method = "get" ↔ v = .get := by
  cases v <;> decide

end Route

/-! ## Lines of parameters -/

namespace RequestType

variable {type : RequestType} {name : List Char}

/-- What a name has in a reflected type is what is found under it. -/
theorem Reflected.get?_of_mem (h : type.Reflected) {p : PathParam} (hp : (String.ofList name, p) ∈ type) :
    type.get? (CodeText.ofChars name) = some p := by
  have hsame : ∀ e ∈ type, CodeText.ofString e.1 = CodeText.ofChars name → e = (String.ofList name, p) := by
    intro e he heq
    rw [← CodeText.ofString_ofList, CodeText.ofString_inj] at heq
    exact List.inj_on_of_nodup_map h.nodup he hp heq
  unfold get?
  cases hfind : type.find? fun e => CodeText.ofString e.1 == CodeText.ofChars name with
  | none =>
    have hmiss := List.find?_eq_none.1 hfind _ hp
    simp at hmiss
  | some e =>
    rw [hsame e (List.mem_of_find?_eq_some hfind) (by simpa using List.find?_some hfind)]
    rfl

/-- A name that is not in a type has nothing under it. -/
theorem get?_of_not_mem (h : ∀ p, (String.ofList name, p) ∉ type) : type.get? (CodeText.ofChars name) = none := by
  rw [get?, Option.map_eq_none_iff, List.find?_eq_none]
  rintro ⟨n, p⟩ hmem heq
  rw [beq_iff_eq, ← CodeText.ofString_ofList, CodeText.ofString_inj] at heq
  exact h p (heq ▸ hmem)

end RequestType

namespace DocBlock

variable {scheme : CodeText} {name receiver : String} {type : RequestType} {route : Route}

/-- What a block is to say about a placeholder: the kind that the request type has for the name and whether it
is required there; or else an id is an integer and anything else a text, and both are required. -/
structure Says (type : RequestType) (name : List Char) (kind : String) (required : Bool) : Prop where
  bound : ∀ p, (String.ofList name, p) ∈ type → kind = p.kind ∧ required = p.required
  assumed : (∀ p, (String.ofList name, p) ∉ type) →
    kind = (if name = "id".toList ∨ "_id".toList <:+ name then "integer" else "string") ∧ required = true

/-- The line of a parameter: its name, where it stands, its kind, whether it is required, and its name again. -/
def lineOf (name place kind : String) (required : Bool) : String :=
  "@Param " ++ name ++ " " ++ place ++ " " ++ kind ++ " " ++ boolText required ++ " \"" ++ name ++ "\""

theorem namesId_iff (name : List Char) :
    namesId (CodeText.ofChars name) = true ↔ name = "id".toList ∨ "_id".toList <:+ name := by
  have hsuffix : CodeText.ofString "_id" <:+ CodeText.ofChars name ↔ "_id".toList <:+ name :=
    List.suffix_map_iff_of_injective CodeText.char_injective
  rw [namesId, Bool.or_eq_true, beq_iff_eq, List.isSuffixOf_iff_suffix, hsuffix, ← CodeText.ofString_ofList,
    CodeText.ofString_inj, ← String.toList_inj, String.toList_ofList]

theorem says_paramFacts (htype : type.Reflected) (name : List Char) :
    Says type name (paramFacts type (CodeText.ofChars name)).1 (paramFacts type (CodeText.ofChars name)).2 := by
  refine ⟨fun p hp => ?_, fun hnone => ?_⟩
  · rw [paramFacts, htype.get?_of_mem hp]
    exact ⟨rfl, rfl⟩
  · rw [paramFacts, RequestType.get?_of_not_mem hnone]
    simp only [namesId_iff, and_self]

theorem paramLine_eq_lineOf (type : RequestType) (name : List Char) :
    paramLine type (CodeText.ofChars name) = lineOf (String.ofList name) "path"
      (paramFacts type (CodeText.ofChars name)).1 (paramFacts type (CodeText.ofChars name)).2 := by
  unfold paramLine lineOf
  simp only [CodeText.ofString_append, CodeText.ofString_ofList, List.append_assoc]
  rfl

theorem requestLine_eq_lineOf (name : String) (method : CodeText) :
    requestLine name method =
      lineOf "req" (if method = "get" then "query" else "body") ("types." ++ name ++ "Req") (method != "get") := by
  unfold requestLine lineOf requestName
  by_cases hget : method = "get"
  · simp [hget, boolText, String.append_assoc]
  · simp [hget, boolText, String.append_assoc]

/-- Whether a line of a block is the line of a parameter. -/
def isParamLine (line : CodeText) : Bool := (CodeText.ofString "@Param ").isPrefixOf line

/-- A line that starts otherwise is none of a parameter. -/
theorem isParamLine_eq_false (lead : String) (h : ¬"@Param ".toList <+: lead.toList)
    (h' : ¬lead.toList <+: "@Param ".toList) (rest : CodeText) : isParamLine (lead ++ rest) = false := by
  rw [isParamLine, Bool.eq_false_iff, Ne, List.isPrefixOf_iff_prefix]
  intro hprefix
  rcases List.prefix_or_prefix_of_prefix hprefix (List.prefix_append _ _) with hlead | hlead
  · exact h (CodeText.ofString_prefix_iff.1 hlead)
  · exact h' (CodeText.ofString_prefix_iff.1 hlead)

theorem isParamLine_lineOf (name place kind : String) (required : Bool) :
    isParamLine (lineOf name place kind required) = true := by
  rw [isParamLine, List.isPrefixOf_iff_prefix, CodeText.ofString_prefix_iff]
  unfold lineOf
  simp only [String.append_assoc, String.toList_append]
  exact List.prefix_append _ _

/-- A line that starts with a word is none of a parameter. -/
theorem isParamLine_word (hname : Route.IsWord name.toList) (rest : String) :
    isParamLine (CodeText.ofString (name ++ rest)) = false := by
  obtain ⟨c, cs, hc⟩ := List.exists_cons_of_ne_nil hname.1
  have hword := hname.2 c (hc ▸ List.mem_cons_self)
  rw [isParamLine, Bool.eq_false_iff, Ne, List.isPrefixOf_iff_prefix, CodeText.ofString_prefix_iff,
    String.toList_append, hc]
  intro hprefix
  obtain rfl : '@' = c := (List.cons_prefix_cons.1 hprefix).1
  exact absurd hword (by decide)

/-- The lines of a block that are of parameters are those of `paramLines`, where the path has placeholders of
characters. -/
theorem filter_lines (scheme : CodeText) (type : RequestType) (hname : Route.IsWord name.toList) (receiver : String)
    {names : List (List Char)} (hnames : Route.placeholders route.path = names.map CodeText.ofChars) :
    (lines scheme type name receiver route).filter isParamLine = paramLines type name route := by
  have hhead : ([name ++ " godoc", "@Summary " ++ summary name, "@Description " ++ describe name,
      "@Tags " ++ tag receiver, "@Accept json", "@Produce json"].map CodeText.ofString).filter isParamLine = [] := by
    have hwords : ∀ lead ∈ ["@Summary ", "@Description ", "@Tags "], ∀ rest : String,
        isParamLine (CodeText.ofString (lead ++ rest)) = false := by
      intro lead hlead rest
      have hother : ∀ lead ∈ ["@Summary ", "@Description ", "@Tags "],
          ¬"@Param ".toList <+: lead.toList ∧ ¬lead.toList <+: "@Param ".toList := by decide
      rw [CodeText.ofString_append]
      exact isParamLine_eq_false lead (hother lead hlead).1 (hother lead hlead).2 rest
    rw [List.filter_eq_nil_iff]
    simp only [List.map_cons, List.map_nil, List.forall_mem_cons, isParamLine_word hname,
      hwords "@Summary " (by decide), hwords "@Description " (by decide), hwords "@Tags " (by decide)]
    decide
  have hparams : (paramLines type name route).filter isParamLine = paramLines type name route := by
    refine List.filter_eq_self.2 fun l hl => ?_
    rw [paramLines, hnames, List.map_map] at hl
    rcases List.mem_append.1 hl with hl | hl
    · obtain ⟨p, -, rfl⟩ := List.mem_map.1 hl
      rw [Function.comp_apply, paramLine_eq_lineOf]
      exact isParamLine_lineOf ..
    · rw [List.mem_singleton.1 hl, requestLine_eq_lineOf]
      exact isParamLine_lineOf ..
  have hanswers : ((successLine name route.method :: failureLines).map CodeText.ofString).filter isParamLine = [] := by
    have hfailures : (failureLines.map CodeText.ofString).filter isParamLine = [] := by decide
    have hsuccess : isParamLine (CodeText.ofString (successLine name route.method)) = false := by
      simp only [successLine, String.append_assoc, CodeText.ofString_append (a := "@Success "),
        isParamLine_eq_false "@Success " (by decide) (by decide)]
    rw [List.map_cons, List.filter_cons_of_neg (by rw [hsuccess]; decide), hfailures]
  have hsecurity : (if route.secured then ["@Security " ++ scheme] else [] : List CodeText).filter isParamLine = [] := by
    cases route.secured with
    | true => simp [isParamLine_eq_false "@Security " (by decide) (by decide)]
    | false => rfl
  have hrouter : ["@Router " ++ route.path ++ " [" ++ route.method ++ "]"].filter isParamLine = [] := by
    simp only [List.append_assoc, List.filter_cons, List.filter_nil,
      isParamLine_eq_false "@Router " (by decide) (by decide)]
    rfl
  simp only [lines, List.filter_append, hhead, hanswers, hsecurity, hrouter, hparams, List.nil_append, List.append_nil]

end DocBlock

/-! ## Blocks of registered handlers -/

namespace Session

theorem Reflects.requestType {s : Session} (hs : s.Reflects) (patterns : List String) (file : Option String)
    (qualified : String) : (s.requestType patterns file qualified).1.Reflected := by
  have hturns : s.Turns [] (s.requestType patterns file qualified).2 := requestType_turns patterns file qualified s
  obtain ⟨e, hfind, htype⟩ := requestType_found patterns file qualified s
  rw [← htype]
  exact hturns.reflects hs e (List.mem_of_find?_eq_some hfind)

end Session

namespace Generator

variable (g : Generator) {groups : Route.Groups} {source : String} {h : Handler} {site : Route.CallSite}

/-- The lines of the parameters of a handler that is registered at a call: one for each name that the
pattern binds, with what is to be said about it, and behind them the one of the request. -/
def ListsParams (type : RequestType) (h : Handler) (site : Route.CallSite) (ls : List String) : Prop :=
  ∃ placed : List String,
    List.Forall₂ (fun name l => ∃ kind required, DocBlock.Says type name kind required ∧
      l = DocBlock.lineOf (String.ofList name) "path" kind required) (Route.boundNames site.pattern) placed ∧
    ls = placed ++ [DocBlock.lineOf "req" (if site.verb = .get then "query" else "body") ("types." ++ h.name ++ "Req")
      (decide (site.verb ≠ .get))]

theorem filter_blockLines (hroutes : g.routes = Route.parseRoutes groups source)
    (hsite : Route.lastSite groups source h.name = some site) (hopen : '{' ∉ site.pattern) (hclose : '}' ∉ site.pattern)
    (hlead : .char '{' ∉ g.lead) (file : Option String) {s : Session} (hs : s.Reflects) :
    ∃ params, ListsParams (s.requestType g.settings.typesPaths file ("types." ++ h.name ++ "Req")).1 h site params ∧
      (g.blockLines file h s).filter DocBlock.isParamLine = params.map CodeText.ofString := by
  generalize htype : (s.requestType g.settings.typesPaths file ("types." ++ h.name ++ "Req")).1 = type
  have hreflected : type.Reflected := htype ▸ hs.requestType _ _ _
  have hmethod : (Route.resolve (Route.parseRoutes groups source) g.lead h.name).method = site.verb.method := by
    rw [Route.resolve_lastSite _ hsite, Route.withLead_method]
    rfl
  have hnames := Route.placeholders_resolve hsite hopen hclose hlead
  refine ⟨_, ⟨(Route.boundNames site.pattern).map fun name => DocBlock.lineOf (String.ofList name) "path"
    (DocBlock.paramFacts type (CodeText.ofChars name)).1 (DocBlock.paramFacts type (CodeText.ofChars name)).2,
    ?_, rfl⟩, ?_⟩
  · rw [List.forall₂_map_right_iff, List.forall₂_same]
    exact fun name _ => ⟨_, _, DocBlock.says_paramFacts hreflected name, rfl⟩
  · rw [blockLines, hroutes, DocBlock.filter_lines _ _ (Route.isWord_of_lastSite hsite) _ hnames, DocBlock.paramLines,
      hnames, hmethod, DocBlock.requestLine_eq_lineOf, DocBlock.requestName, htype, List.map_append, List.map_map,
      List.map_map]
    simp only [Function.comp_def, DocBlock.paramLine_eq_lineOf, CodeText.ofString_inj, bne,
      Route.Verb.method_eq_get_iff, beq_eq_decide, ne_eq, decide_not, List.map_cons,
      List.map_nil]

/-- **The parameters of a registered handler.** Where the pattern that a handler was last registered with and
the lead have no braces and no line end, the lines of its block that are of parameters are one for each non-empty
text behind the first colon of a segment of the pattern, from left to right, with what the request type has for
the name or else with what is assumed, and then one for the request. With a scheme and a receiver that stay on
their lines these are all such lines of the text of the block. -/
theorem annotate_params (hroutes : g.routes = Route.parseRoutes groups source)
    (hsite : Route.lastSite groups source h.name = some site) (hpattern : ∀ c ∈ ['{', '}', '\n'], c ∉ site.pattern)
    (hlead : ∀ c ∈ ['{', '}', '\n'], .char c ∉ g.lead) (file : Option String) {s : Session} (hs : s.Reflects) :
    let type := (s.requestType g.settings.typesPaths file ("types." ++ h.name ++ "Req")).1
    let block := (g.annotate file h s).1.block
    ∃ params, ListsParams type h site params ∧
      block = (g.blockLines file h s).flatMap DocBlock.commentLine ∧
      (g.blockLines file h s).filter DocBlock.isParamLine = params.map CodeText.ofString ∧
      (.char '\n' ∉ g.scheme → '\n' ∉ h.receiver.toList →
        (Text.splitAt (.char '\n') block).filter (CodeText.ofString "// @Param ").isPrefixOf =
          params.map fun l => CodeText.ofString ("// " ++ l)) := by
  intro type block
  have hblock : block = (g.blockLines file h s).flatMap DocBlock.commentLine := annotate_block g file h s
  obtain ⟨params, hparams, hfilter⟩ := g.filter_blockLines hroutes hsite (hpattern '{' (by simp))
    (hpattern '}' (by simp)) (hlead '{' (by simp)) file hs
  refine ⟨params, hparams, hblock, hfilter, fun hscheme hreceiver => ?_⟩
  have hname : '\n' ∉ h.name.toList := fun hmem =>
    absurd ((Route.isWord_of_lastSite hsite).2 '\n' hmem) (by decide)
  obtain ⟨hmethod, hpath⟩ := Route.resolve_newline groups source (hlead '\n' (by simp)) hname
  have hfree : .char '\n' ∉ (Route.resolve g.routes g.lead h.name).path := by
    intro hmem
    obtain ⟨site', hsite', hmem'⟩ := hpath (hroutes ▸ hmem)
    obtain rfl := Option.some.inj (hsite.symm.trans hsite')
    exact hpattern '\n' (by simp) hmem'
  have hlines := DocBlock.not_mem_lines (by decide) hscheme
    (hs.requestType g.settings.typesPaths file (DocBlock.requestName h.name)).knownKinds hname hreceiver hfree
    (hroutes ▸ hmethod)
  have hsplit : Text.splitAt (.char '\n') block =
      (g.blockLines file h s).map (fun l => CodeText.ofString "// " ++ l) ++ [[]] := by
    rw [show block = _ from annotate_block g file h s]
    exact DocBlock.splitAt_block hlines
  have hstarts : ∀ l : CodeText, (CodeText.ofString "// @Param ").isPrefixOf (CodeText.ofString "// " ++ l) =
      DocBlock.isParamLine l := fun l => rfl
  have hlast : [([] : CodeText)].filter (CodeText.ofString "// @Param ").isPrefixOf = [] := rfl
  have hcomments : (params.map fun l => CodeText.ofString ("// " ++ l)) =
      (params.map CodeText.ofString).map fun l => CodeText.ofString "// " ++ l := by
    rw [List.map_map]
    exact List.map_congr_left fun l _ => CodeText.ofString_append ..
  rw [hsplit, List.filter_append, hlast, List.append_nil, List.filter_map, hcomments, ← hfilter]
  exact congrArg _ (List.filter_congr fun l _ => hstarts l)

/-- A file whose request type takes an id that is a text, and a number that is not required. -/
def showTypes : Workspace where
  entries := [(["t.go"], .file (Text.utf8
    "package t\n\ntype ShowReq struct \x7b\n\tID string `uri:\"id\" binding:\"required\"`\n\tX int `uri:\"x\"`\n\x7d\n"))]
  cwd := []

/-- A generator that looks for types in the file, for a router with many colons in a pattern. -/
def colonGenerator : Generator :=
  { routedGenerator "api.PUT(\"/v:x/:id/:/a:/:user_id/:id:y\", h.Show)" with
    settings := { plainGenerator.settings with typesPaths := ["t.go"] } }

theorem requestType_showTypes :
    ((Session.start showTypes).requestType ["t.go"] none "types.ShowReq").1 =
      [("id", ⟨"id", "string", true⟩), ("x", ⟨"x", "integer", false⟩)] := by
  have hexpand : Glob.expand showTypes "t.go" = ["t.go"] := by decide +kernel
  have hfiles : typeFiles showTypes ["t.go"] = ["t.go"] := by
    rw [typeFiles, List.flatMap_singleton, Glob.expandSorted, hexpand, Text.sortStrings, List.mergeSort_singleton]
    rfl
  have hname : typeNameOf "types.ShowReq" = some "ShowReq" := by decide +kernel
  have hfound : ((Session.start showTypes).searchFiles none "ShowReq" ["t.go"]).1 =
      some [("id", ⟨"id", "string", true⟩), ("x", ⟨"x", "integer", false⟩)] := by decide +kernel
  unfold Session.requestType Session.search
  simp only [Session.start, List.find?_nil, hname, hfiles]
  revert hfound
  simp only [Session.start]
  generalize Session.searchFiles none "ShowReq" ["t.go"] _ = found
  obtain ⟨type, s⟩ := found
  rintro rfl
  rfl

/-- Two of the names are bound, against what would be assumed; the other two are not. -/
theorem annotate_params_manyColons :
    (Text.splitAt (.char '\n') (colonGenerator.annotate none showHandler (.start showTypes)).1.block).filter
        (CodeText.ofString "// @Param ").isPrefixOf =
      ["// @Param x path integer false \"x\"", "// @Param id path string true \"id\"",
        "// @Param user_id path integer true \"user_id\"", "// @Param id:y path string true \"id:y\"",
        "// @Param req body types.ShowReq true \"req\""].map CodeText.ofString := by
  obtain ⟨site, hsite, hpattern, hverb⟩ :
      ∃ site, Route.lastSite .standard "api.PUT(\"/v:x/:id/:/a:/:user_id/:id:y\", h.Show)" showHandler.name = some site ∧
        site.pattern = "/v:x/:id/:/a:/:user_id/:id:y".toList ∧ site.verb = .put := by decide +kernel
  obtain ⟨params, hparams, -, -, hlines⟩ := colonGenerator.annotate_params rfl hsite (by rw [hpattern]; simp)
    (by simp [colonGenerator, routedGenerator, plainGenerator]) none (Session.reflects_start showTypes)
  rw [hlines (by decide) (by decide)]
  have hbound : Route.boundNames site.pattern = ["x".toList, "id".toList, "user_id".toList, "id:y".toList] := by
    rw [hpattern]
    decide +kernel
  have htype : (Session.requestType colonGenerator.settings.typesPaths none ("types." ++ showHandler.name ++ "Req")
      (.start showTypes)).1 = [("id", ⟨"id", "string", true⟩), ("x", ⟨"x", "integer", false⟩)] := requestType_showTypes
  obtain ⟨placed, hplaced, rfl⟩ := hparams
  rw [hbound, htype] at hplaced
  obtain ⟨_, _, ⟨_, _, hx, rfl⟩, hbehind, rfl⟩ := List.forall₂_cons_left_iff.1 hplaced
  obtain ⟨_, _, ⟨_, _, hid, rfl⟩, hbehind', rfl⟩ := List.forall₂_cons_left_iff.1 hbehind
  obtain ⟨_, _, ⟨_, _, huser, rfl⟩, hbehind'', rfl⟩ := List.forall₂_cons_left_iff.1 hbehind'
  obtain ⟨_, _, ⟨_, _, hodd, rfl⟩, hnone, rfl⟩ := List.forall₂_cons_left_iff.1 hbehind''
  obtain rfl := List.forall₂_nil_left_iff.1 hnone
  obtain ⟨rfl, rfl⟩ := hx.bound ⟨"x", "integer", false⟩ (by decide)
  obtain ⟨rfl, rfl⟩ := hid.bound ⟨"id", "string", true⟩ (by decide)
  obtain ⟨rfl, rfl⟩ := huser.assumed (by simp)
  obtain ⟨rfl, rfl⟩ := hodd.assumed (by simp)
  rw [hverb]
  decide +kernel

end Generator

end RouteDoc
