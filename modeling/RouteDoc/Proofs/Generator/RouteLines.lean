/-
A block says which route it was made for.

Where the texts of a block stay on their lines, the lines of its text are the
lines it was made of (`splitAt_block`). The last one names the path and the
method, and the one before it tells whether a request has to be authenticated:
`readRoute` reads them off the text alone. A path is any text, it may look like
the rest of the line and like other lines of the block; but a method has no
bracket, so the last bracket of the line is the one in front of the method, and
no line end of the block stands inside a path.
-/
import RouteDoc.Proofs.Generator.LineEnds
import RouteDoc.Proofs.Router.CallSites

namespace RouteDoc

open Text (NoControls)

/-! ## Reading a route off a block -/

namespace DocBlock

/-- The path and the method on the last line of a block. The line is read from its end: up to the
last opening bracket there is the method. -/
def routeLine? (line : CodeText) : Option (CodeText × CodeText) :=
  match line.reverse with
  | .char ']' :: back =>
    match back.dropWhile (· != .char '[') with
    | .char '[' :: .char ' ' :: front =>
      (front.reverse.dropPrefix? (CodeText.ofString "// @Router ")).map fun path =>
        (path, (back.takeWhile (· != .char '[')).reverse)
    | _ => none
  | _ => none

/-- The path and the method that the text of a block names, and whether it is secured. -/
def readRoute (block : CodeText) : Option (CodeText × CodeText × Bool) :=
  match (Text.splitAt (.char '\n') block).reverse with
  | [] :: last :: before :: _ =>
    (routeLine? last).map fun r => (r.1, r.2, (CodeText.ofString "// @Security ").isPrefixOf before)
  | _ => none

variable {scheme : CodeText} {name receiver : String} {type : RequestType} {route : Route}

theorem routeLine?_eq {path method : CodeText} (hmethod : .char '[' ∉ method) :
    routeLine? (CodeText.ofString "// @Router " ++ path ++ CodeText.ofString " [" ++ method ++ CodeText.ofString "]") =
      some (path, method) := by
  generalize hlead : CodeText.ofString "// @Router " = lead
  have hpos : ∀ c ∈ method.reverse, (c != .char '[') = true := fun c hc =>
    bne_iff_ne.2 fun heq => hmethod (List.mem_reverse.1 (heq ▸ hc))
  have hback : (lead ++ path ++ CodeText.ofString " [" ++ method ++ CodeText.ofString "]").reverse =
      .char ']' :: (method.reverse ++ .char '[' :: .char ' ' :: (lead ++ path).reverse) := by
    simp [CodeText.ofString, CodeText.ofChars]
  have hdrop : (method.reverse ++ .char '[' :: .char ' ' :: (lead ++ path).reverse).dropWhile (· != .char '[') =
      .char '[' :: .char ' ' :: (lead ++ path).reverse := by
    rw [List.dropWhile_append_of_pos hpos]
    simp
  have htake : (method.reverse ++ .char '[' :: .char ' ' :: (lead ++ path).reverse).takeWhile (· != .char '[') =
      method.reverse := by
    rw [List.takeWhile_append_of_pos hpos]
    simp
  have hprefix : (lead ++ path).dropPrefix? lead = some path :=
    List.dropPrefix?_eq_some_iff.2 ⟨lead, rfl, BEq.rfl⟩
  unfold routeLine?
  simp only [hback, hdrop, htake, hlead, List.reverse_reverse, hprefix, Option.map_some]

/-! ## The lines of a block -/

/-- **The lines of the text are the lines of the block**, where each stays on its line. -/
theorem splitAt_block (h : ∀ l ∈ lines scheme type name receiver route, .char '\n' ∉ l) :
    Text.splitAt (.char '\n') (block scheme type name receiver route) =
      (lines scheme type name receiver route).map (fun l => CodeText.ofString "// " ++ l) ++ [[]] := by
  have hone : ∀ l ∈ lines scheme type name receiver route,
      Text.splitAt (.char '\n') (CodeText.ofString "// " ++ l) = [CodeText.ofString "// " ++ l] := by
    intro l hl
    refine Text.splitAt_of_not_mem fun hmem => ?_
    rcases List.mem_append.1 hmem with hmem | hmem
    · exact absurd hmem (by decide)
    · exact h l hl hmem
  rw [block, splitAt_commentLines, List.flatMap_congr hone, List.map_eq_flatMap]

theorem lines_length (scheme : CodeText) (type : RequestType) (name receiver : String) (route : Route) :
    (lines scheme type name receiver route).length =
      12 + (Route.placeholders route.path).length + if route.secured then 1 else 0 := by
  have hfailures : failureLines.length = 3 := rfl
  have hsecurity : (if route.secured then ["@Security " ++ scheme] else [] : List CodeText).length =
      if route.secured then 1 else 0 := by
    split <;> rfl
  simp only [lines, paramLines, List.length_append, List.length_cons, List.length_nil, List.length_map, hfailures,
    hsecurity]
  omega

/-- The line in front of the last one. -/
def penultimate (scheme : CodeText) (secured : Bool) : CodeText :=
  if secured then "@Security " ++ scheme
  else CodeText.ofString "@Failure 500 \x7bobject\x7d types.Response \"Internal server error\""

theorem lines_ending (scheme : CodeText) (type : RequestType) (name receiver : String) (route : Route) :
    ∃ front, lines scheme type name receiver route =
      front ++ [penultimate scheme route.secured, "@Router " ++ route.path ++ " [" ++ route.method ++ "]"] := by
  unfold lines penultimate failureLines
  cases route.secured with
  | true => exact ⟨_, (List.append_assoc _ _ _).trans rfl⟩
  | false =>
    refine ⟨[name ++ " godoc", "@Summary " ++ summary name, "@Description " ++ describe name,
      "@Tags " ++ tag receiver, "@Accept json", "@Produce json"].map CodeText.ofString ++ paramLines type name route ++
      (successLine name route.method :: failureLines.take 2).map CodeText.ofString, ?_⟩
    simp [failureLines]

theorem startsWith_penultimate (scheme : CodeText) (secured : Bool) :
    (CodeText.ofString "// @Security ").isPrefixOf (CodeText.ofString "// " ++ penultimate scheme secured) =
      secured := by
  cases secured with
  | true =>
    rw [List.isPrefixOf_iff_prefix, penultimate, if_pos rfl]
    exact ⟨scheme, rfl⟩
  | false =>
    simp only [penultimate, Bool.false_eq_true, if_false]
    decide

/-- **The route can be read off the block.** -/
theorem readRoute_block (hlines : ∀ l ∈ lines scheme type name receiver route, .char '\n' ∉ l)
    (hmethod : .char '[' ∉ route.method) :
    readRoute (block scheme type name receiver route) = some (route.path, route.method, route.secured) := by
  obtain ⟨front, hfront⟩ := lines_ending scheme type name receiver route
  have hrouter : CodeText.ofString "// " ++ ("@Router " ++ route.path ++ " [" ++ route.method ++ "]") =
      CodeText.ofString "// @Router " ++ route.path ++ CodeText.ofString " [" ++ route.method ++
        CodeText.ofString "]" := by
    simp only [List.append_assoc]
    rfl
  unfold readRoute
  rw [splitAt_block hlines, hfront]
  simp only [List.map_append, List.map_cons, List.map_nil, List.reverse_append, List.reverse_cons, List.reverse_nil,
    List.nil_append, List.cons_append, hrouter, routeLine?_eq hmethod, startsWith_penultimate, Option.map_some]

end DocBlock

/-! ## Routes of a table -/

namespace Route

/-- The methods that a route can have. -/
def methods : List String := Verb.all.map Verb.method

theorem inferMethod_mem (name : String) : inferMethod name ∈ methods := by
  have hleads : ∀ e ∈ methodLeads, e.2 ∈ methods := by decide
  unfold inferMethod
  split
  · rename_i e he
    exact hleads e (List.mem_of_find?_eq_some he)
  · decide

/-- A method is a word: it has no line end and no bracket. -/
theorem not_mem_method {method : String} (h : method ∈ methods) : '\n' ∉ method.toList ∧ '[' ∉ method.toList := by
  have hall : ∀ m ∈ methods, '\n' ∉ m.toList ∧ '[' ∉ m.toList := by decide
  exact hall method h

/-- The lead is put in front exactly where the path does not start with it. -/
theorem withLead_path (lead : CodeText) (r : Route) :
    (withLead lead r).path = if lead <+: r.path then r.path else lead ++ r.path := by
  unfold withLead
  by_cases hstarts : lead <+: r.path
  · rw [if_pos (by simp [hstarts]), if_pos hstarts]
  · have hne : lead.isEmpty = false := by
      rw [Bool.eq_false_iff, Ne, List.isEmpty_iff]
      rintro rfl
      exact hstarts List.nil_prefix
    rw [if_neg (by simp [hstarts, hne]), if_neg hstarts]

theorem withLead_secured (lead : CodeText) (r : Route) : (withLead lead r).secured = r.secured := by
  unfold withLead
  split <;> rfl

/-- Before the lead is looked at, a route is one of the table or the inferred one. -/
theorem resolve_cases (table : RouteTable) (lead : CodeText) (name : String) :
    (∃ e ∈ table, resolve table lead name = withLead lead e.2) ∨ resolve table lead name = withLead lead (infer name) := by
  unfold resolve RouteTable.get?
  cases hfind : table.find? fun e => e.1 == name with
  | none => exact .inr rfl
  | some e => exact .inl ⟨e, List.mem_of_find?_eq_some hfind, rfl⟩

end Route

/-! ## Blocks -/

namespace Generator

/-- The texts that a block is made of stay on their lines, and the routes of the table have one of
the five methods. -/
structure Lined (g : Generator) (h : Handler) (s : Session) : Prop where
  session : s.Sound
  scheme : .char '\n' ∉ g.scheme
  lead : .char '\n' ∉ g.lead
  paths : ∀ e ∈ g.routes, .char '\n' ∉ e.2.path
  methods : ∀ e ∈ g.routes, ∃ method ∈ Route.methods, e.2.method = method
  name : '\n' ∉ h.name.toList
  receiver : '\n' ∉ h.receiver.toList

variable {g : Generator} {h : Handler} {s : Session}

theorem Lined.method (hl : g.Lined h s) :
    .char '\n' ∉ (Route.resolve g.routes g.lead h.name).method ∧
      .char '[' ∉ (Route.resolve g.routes g.lead h.name).method := by
  obtain ⟨method, hmem, hmethod⟩ : ∃ method ∈ Route.methods,
      (Route.resolve g.routes g.lead h.name).method = method := by
    rcases Route.resolve_cases g.routes g.lead h.name with ⟨e, he, hroute⟩ | hroute
    · rw [hroute, Route.withLead_method]
      exact hl.methods e he
    · rw [hroute, Route.withLead_method]
      exact ⟨_, Route.inferMethod_mem h.name, rfl⟩
  rw [hmethod, CodeText.char_mem_ofString, CodeText.char_mem_ofString]
  exact Route.not_mem_method hmem

theorem Lined.path (hl : g.Lined h s) : .char '\n' ∉ (Route.resolve g.routes g.lead h.name).path := by
  intro hmem
  rcases Route.resolve_cases g.routes g.lead h.name with ⟨e, he, hroute⟩ | hroute
  · rw [hroute] at hmem
    exact (Route.mem_withLead_path hmem).elim hl.lead (hl.paths e he)
  · rw [hroute] at hmem
    refine (Route.mem_withLead_path hmem).elim hl.lead fun hmem => ?_
    exact Route.not_mem_inferPath (by decide) hl.name (CodeText.char_mem_ofString.1 hmem)

/-- The lines that the block of a handler is made of. -/
def blockLines (g : Generator) (file : Option String) (h : Handler) (s : Session) : List CodeText :=
  DocBlock.lines g.scheme (s.requestType g.settings.typesPaths file (DocBlock.requestName h.name)).1 h.name h.receiver
    (Route.resolve g.routes g.lead h.name)

theorem Lined.lines (hl : g.Lined h s) (file : Option String) : ∀ l ∈ g.blockLines file h s, .char '\n' ∉ l :=
  DocBlock.not_mem_lines (by decide) hl.scheme (hl.session.requestType _ _ _) hl.name hl.receiver hl.path hl.method.1

theorem Lined.readRoute (hl : g.Lined h s) (file : Option String) :
    DocBlock.readRoute (g.annotate file h s).1.block =
      some ((g.annotate file h s).1.route.path, (g.annotate file h s).1.route.method,
        (g.annotate file h s).1.route.secured) := by
  rw [annotate_block]
  exact DocBlock.readRoute_block (hl.lines file) hl.method.2

/-- **A block determines its route.** The text of a block is as many lines as its placeholders and its
security ask for, each a line comment. Its path, method and security can be read off the text, so blocks of
other routes have other texts, whatever generator and handler they are for. What is read is the route that
the table has for the handler, or the one that its name suggests where the table has none, with the lead in
front of a path that does not start with it. -/
theorem annotate_determines (hl : g.Lined h s) (file : Option String) :
    let block := (g.annotate file h s).1.block
    let route := (g.routes.get? h.name).getD (Route.infer h.name)
    let path := if g.lead <+: route.path then route.path else g.lead ++ route.path
    (∃ ls, Text.splitAt (.char '\n') block = ls ++ [[]] ∧
      ls.length = 12 + (Route.placeholders path).length + (if route.secured then 1 else 0) ∧
      ∀ l ∈ ls, CodeText.ofString "// " <+: l) ∧
    DocBlock.readRoute block = some (path, route.method, route.secured) ∧
    ∀ {g' : Generator} {h' : Handler} {s' : Session} (file' : Option String), g'.Lined h' s' →
      (g'.annotate file' h' s').1.block = block →
      (g'.annotate file' h' s').1.route.path = path ∧ (g'.annotate file' h' s').1.route.method = route.method ∧
        (g'.annotate file' h' s').1.route.secured = route.secured := by
  intro block route path
  have hpath : (g.annotate file h s).1.route.path = path := Route.withLead_path _ _
  have hmethod : (g.annotate file h s).1.route.method = route.method := Route.withLead_method _ _
  have hsecured : (g.annotate file h s).1.route.secured = route.secured := Route.withLead_secured _ _
  have hread := hl.readRoute file
  rw [hpath, hmethod, hsecured] at hread
  refine ⟨⟨(g.blockLines file h s).map fun l => CodeText.ofString "// " ++ l, ?_, ?_, ?_⟩, hread, ?_⟩
  · rw [show block = _ from annotate_block g file h s]
    exact DocBlock.splitAt_block (hl.lines file)
  · rw [List.length_map, blockLines, DocBlock.lines_length, ← hpath, ← hsecured]
    rfl
  · intro l hmem
    obtain ⟨line, -, rfl⟩ := List.mem_map.1 hmem
    exact List.prefix_append _ _
  · intro g' h' s' file' hl' hblock
    have hread' := hl'.readRoute file'
    rw [hblock, hread] at hread'
    simpa [eq_comm] using hread'

/-- A generator whose table has a path that looks like the end of a block. -/
def bracketGenerator : Generator :=
  { plainGenerator with routes := [("Show", ⟨"/a [get]// @Security \x7bid\x7d [put]", "delete", "Show", false⟩)] }

theorem annotate_determines_bracketPath :
    bracketGenerator.Lined showHandler (.start ⟨[], []⟩) ∧
    (∃ ls, Text.splitAt (.char '\n') (bracketGenerator.annotate none showHandler (.start ⟨[], []⟩)).1.block =
      ls ++ [[]] ∧ ls.length = 13) ∧
    DocBlock.readRoute (bracketGenerator.annotate none showHandler (.start ⟨[], []⟩)).1.block =
      some (CodeText.ofString "/api/a [get]// @Security \x7bid\x7d [put]", CodeText.ofString "delete", false) := by
  have hl : bracketGenerator.Lined showHandler (.start ⟨[], []⟩) :=
    ⟨Session.sound_start (by decide), by decide, by decide, by decide, by decide, by decide, by decide⟩
  obtain ⟨⟨ls, hsplit, hlength, -⟩, hread, -⟩ := annotate_determines hl none
  have hcount : ls.length = 13 := hlength.trans (by decide +kernel)
  exact ⟨hl, ⟨ls, hsplit, hcount⟩, hread.trans (by decide +kernel)⟩

end Generator

end RouteDoc
