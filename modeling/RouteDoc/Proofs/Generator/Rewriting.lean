/-
A file that is handled stays the program it was.

Where the path, the method and the scheme of the new blocks stay on their line,
the file is rewritten by line comments alone: it can be parsed again, its items
read as before, its functions are the same ones, and no comment is lost but
those of the doc blocks that were replaced (`processFile_preserves`). A line end
in a method breaks the comment open, and the file with it
(`processFile_breaks`).
-/
import RouteDoc.Proofs.Generator.Blocks
import RouteDoc.Proofs.Generator.Files

namespace RouteDoc

open Go

/-- A session as runs have it: its tree is sound, and the answers in it were found in sources. -/
structure Session.Sound (s : Session) : Prop where
  workspace : s.workspace.Sound
  answers : ∀ e ∈ s.requestTypes, e.2.KnownKinds

namespace Session

variable {s s' : Session} {q : Place}

theorem sound_start {w : Workspace} (hw : w.Sound) : (start w).Sound := ⟨hw, by intro e he; cases he⟩

theorem Turns.sound_session (h : s.Turns q s') (hs : s.Sound) : s'.Sound :=
  ⟨h.sound hs.workspace, h.answers (fun _ ht => ht.knownKinds) hs.answers⟩

theorem Sound.requestType (hs : s.Sound) (patterns : List String) (file : Option String) (qualified : String) :
    (s.requestType patterns file qualified).1.KnownKinds := by
  have hturns : s.Turns [] (s.requestType patterns file qualified).2 := requestType_turns patterns file qualified s
  obtain ⟨e, hfind, htype⟩ := requestType_found patterns file qualified s
  rw [← htype]
  exact hturns.answers (fun _ ht => ht.knownKinds) hs.answers e (List.mem_of_find?_eq_some hfind)

end Session

namespace Generator

variable (g : Generator) {path : String} {q : Place} {s : Session}

/-! ## New blocks -/

/-- The route, as far as it stands in the block of a handler, and the scheme stay on their line. -/
def CleanRoute (name : String) : Prop :=
  let route := Route.resolve g.routes g.lead name
  route.path.OneLine ∧ route.method.OneLine ∧ g.scheme.OneLine

instance (name : String) : Decidable (g.CleanRoute name) := inferInstanceAs (Decidable (_ ∧ _ ∧ _))

theorem pendingOf_names {ds : List Declaration} {h : Handler} (hh : h ∈ pendingOf ds) :
    h.declaration ∈ ds ∧ h.name = h.declaration.name ∧ h.receiver = receiverType h.declaration := by
  rw [pendingOf_eq] at hh
  obtain ⟨d, hd, rfl⟩ := List.mem_map.1 hh
  exact ⟨List.mem_of_mem_filter hd, rfl, rfl⟩

/-- The block of a handler of a file that can be parsed documents it. -/
theorem block_documents {source : List UInt8} {nodes : List Node} (hnodes : nodes? source = some nodes)
    {h : Handler} (hh : h ∈ pendingOf (Declaration.ofNodes nodes)) (hclean : g.CleanRoute h.name) {type : RequestType}
    (htype : type.KnownKinds) :
    ∃ lines, (DocBlock.block g.scheme type h.name h.receiver (Route.resolve g.routes g.lead h.name)).utf8 =
      commentLines lines ∧ DocLines lines := by
  obtain ⟨hmem, hname, hreceiver⟩ := pendingOf_names hh
  obtain ⟨hnameLine, hreceiverLine⟩ := declaration_oneLine hnodes hmem
  rw [← hname] at hnameLine
  rw [← hreceiver] at hreceiverLine
  have hparts : DocBlock.Parts g.scheme type h.name h.receiver (Route.resolve g.routes g.lead h.name) :=
    ⟨hclean.2.2, htype, hnameLine, hreceiverLine, hclean.1, hclean.2.1⟩
  exact ⟨_, DocBlock.utf8_block .., DocBlock.docLines_block hparts⟩

theorem annotate_documents {source : List UInt8} {nodes : List Node} (hnodes : nodes? source = some nodes)
    {h : Handler} (hh : h ∈ pendingOf (Declaration.ofNodes nodes)) (hclean : g.CleanRoute h.name) (hs : s.Sound)
    (file : Option String) :
    ∃ lines, (g.annotate file h s).1.edit = h.declaration.edit (commentLines lines) ∧ DocLines lines := by
  obtain ⟨lines, hblock, hlines⟩ := g.block_documents hnodes hh hclean
    (hs.requestType g.settings.typesPaths file (DocBlock.requestName h.name))
  exact ⟨lines, congrArg h.declaration.edit hblock, hlines⟩

theorem exists_edits {as : List Annotated}
    (h : ∀ a ∈ as, ∃ lines, a.edit = a.handler.declaration.edit (commentLines lines) ∧ DocLines lines) :
    ∃ edits : List (Declaration × List (List UInt8)),
      edits.map (fun e => e.1.edit (commentLines e.2)) = as.map Annotated.edit ∧
      edits.map Prod.fst = as.map (fun a => a.handler.declaration) ∧ ∀ e ∈ edits, DocLines e.2 := by
  induction as with
  | nil => exact ⟨[], rfl, rfl, by simp⟩
  | cons a as ih =>
    obtain ⟨⟨lines, hedit, hlines⟩, has⟩ := List.forall_mem_cons.1 h
    obtain ⟨edits, h1, h2, h3⟩ := ih has
    refine ⟨(a.handler.declaration, lines) :: edits, ?_, ?_, List.forall_mem_cons.2 ⟨hlines, h3⟩⟩
    · rw [List.map_cons, List.map_cons, h1, hedit]
    · rw [List.map_cons, List.map_cons, h2]

/-! ## The file afterwards -/

/-- A text with the doc blocks of some functions replaced: what stays, and what is there now. -/
structure Rewritten (source source' : List UInt8) (nodes nodes' : List Node) (ds : List Declaration) : Prop where
  parses : nodes? source' = some nodes'
  documents : Documents (Declaration.ofNodes nodes) ds (Declaration.ofNodes nodes')
  items : itemTexts source nodes = itemTexts source' nodes'
  structures : structuresIn nodes = structuresIn nodes'
  comments : ∃ k k', tokenize source = some k ∧ tokenize source' = some k' ∧
    ((commentsOutside ds k.comments).map Comment.text).Sublist (k'.comments.map Comment.text)

/-- Blocks that document functions, written from the last of them to the first. -/
theorem exists_rewritten {source : List UInt8} {nodes : List Node} (hnodes : nodes? source = some nodes)
    {as : List Annotated}
    (hdocs : ∀ a ∈ as, ∃ lines, a.edit = a.handler.declaration.edit (commentLines lines) ∧ DocLines lines)
    (hsub : (as.map fun a => a.handler.declaration).reverse.Sublist (Declaration.ofNodes nodes)) :
    ∃ nodes', Rewritten source (applyEdits source (as.map Annotated.edit)) nodes nodes'
      (as.map fun a => a.handler.declaration).reverse := by
  obtain ⟨edits, hedits, hfst, hlines⟩ := exists_edits hdocs
  rw [← hfst] at hsub ⊢
  obtain ⟨nodes', hparses, ⟨ds', tail', hds', hdocuments, htail⟩, hitems, hstructures, hcomments⟩ :=
    rewrite_preserved hnodes (List.append_nil _).symm hsub hlines
  rw [hedits] at hparses hitems hcomments
  cases htail
  rw [List.append_nil] at hds'
  obtain ⟨p, -⟩ := nodes?_eq_some_iff.1 hnodes
  obtain ⟨p', -⟩ := nodes?_eq_some_iff.1 hparses
  refine ⟨nodes', hparses, hds' ▸ hdocuments, hitems, hstructures, p.tokens, p'.tokens, p.tokenize, p'.tokenize, ?_⟩
  rw [commentsOutside_reverse]
  exact hcomments _ _ p.tokenize p'.tokenize

/-- Blocks that document handlers which waited for one, written from the last of them to the first. -/
theorem exists_rewritten_pending {source : List UInt8} {nodes : List Node} (hnodes : nodes? source = some nodes)
    {as : List Annotated}
    (hdocs : ∀ a ∈ as, ∃ lines, a.edit = a.handler.declaration.edit (commentLines lines) ∧ DocLines lines)
    (hsub : (as.map Annotated.handler).Sublist (pendingOf (Declaration.ofNodes nodes)).reverse) :
    (as.map fun a => a.handler.declaration).reverse.Sublist
        ((pendingOf (Declaration.ofNodes nodes)).map Handler.declaration) ∧
      ∃ nodes', Rewritten source (applyEdits source (as.map Annotated.edit)) nodes nodes'
        (as.map fun a => a.handler.declaration).reverse := by
  have hdeclarations : (as.map fun a => a.handler.declaration).reverse.Sublist
      ((pendingOf (Declaration.ofNodes nodes)).map Handler.declaration) := by
    have hreverse := (hsub.map Handler.declaration).reverse
    rwa [List.map_map, List.map_reverse, List.reverse_reverse] at hreverse
  refine ⟨hdeclarations, exists_rewritten hnodes hdocs (hdeclarations.trans ?_)⟩
  rw [pendingOf_declarations]
  exact List.filter_sublist

theorem Handles.rewritten {source : List UInt8} {nodes : List Node} {as : List Annotated} {why : Option EncodeFault}
    (h : g.Handles path q source nodes s as why) (hq : s.workspace.locate path = .ok q)
    (hnodes : nodes? source = some nodes) (hs : s.Sound)
    (hclean : ∀ x ∈ pendingOf (Declaration.ofNodes nodes), g.CleanRoute x.name) :
    (as.map fun a => a.handler.declaration).reverse.Sublist
        ((pendingOf (Declaration.ofNodes nodes)).map Handler.declaration) ∧
      ∃ nodes', Rewritten source (applyEdits source (as.map Annotated.edit)) nodes nodes'
        (as.map fun a => a.handler.declaration).reverse := by
  have hlater := (g.processFile_turns hs.workspace hq).sound_session hs
  have hsub : (as.map Annotated.handler).Sublist (pendingOf (Declaration.ofNodes nodes)).reverse := by
    rw [h.handlers]
    exact List.filter_sublist.trans (List.takeWhile_sublist _)
  have hdocs : ∀ a ∈ as, ∃ lines, a.edit = a.handler.declaration.edit (commentLines lines) ∧ DocLines lines := by
    intro a ha
    have hmem := List.mem_reverse.1 (hsub.subset (List.mem_map_of_mem ha))
    have hdoc := g.annotate_documents hnodes hmem (hclean _ hmem) hlater (some (PathText.base path))
    rwa [h.blocks a ha] at hdoc
  exact exists_rewritten_pending hnodes hdocs hsub

/-- What is said of a function by whoever looks for handlers. -/
def profile (d : Declaration) : String × String × Bool := (d.name, receiverType d, isHandler d)

theorem profile_eq {d e : Declaration} (h : d.function = e.function) : profile d = profile e := by
  unfold profile Declaration.name receiverType isHandler takesContext Declaration.isMethod receiverType
  rw [h]

/-- **The program stays.** A file that can be parsed, and whose new blocks stay on their lines, can be
parsed afterwards: it has the same items, and the same functions with the same receivers, of which
the same are handlers. Of its comments only those of the replaced doc blocks go. -/
theorem processFile_preserves (hdry : g.settings.dryRun = false) (hs : s.Sound) {source : List UInt8}
    (hread : s.workspace.read path = .ok source) (hcurrent : s.Current path) {nodes : List Node}
    (hnodes : nodes? source = some nodes)
    (hclean : ∀ h ∈ pendingOf (Declaration.ofNodes nodes), g.CleanRoute h.name) :
    ∃ source' nodes', (g.processFile path s).2.workspace.read path = .ok source' ∧ nodes? source' = some nodes' ∧
      itemTexts source nodes = itemTexts source' nodes' ∧
      (Declaration.ofNodes nodes).map profile = (Declaration.ofNodes nodes').map profile ∧
      ∃ k k', tokenize source = some k ∧ tokenize source' = some k' ∧
        ((commentsOutside ((pendingOf (Declaration.ofNodes nodes)).map Handler.declaration) k.comments).map
          Comment.text).Sublist (k'.comments.map Comment.text) := by
  obtain ⟨q, hq, hbytes⟩ := Workspace.read_eq_ok_iff.1 hread
  obtain ⟨as, why, has⟩ := g.processFile_handles hdry hs.workspace hq hbytes hcurrent hnodes
  obtain ⟨hdeclarations, nodes', hrewritten⟩ := has.rewritten g hq hnodes hs hclean
  obtain ⟨k, k', hk, hk', hcomments⟩ := hrewritten.comments
  refine ⟨applyEdits source (as.map Annotated.edit), nodes', ?_, hrewritten.parses, hrewritten.items,
    hrewritten.documents.map_eq fun _ _ => profile_eq, k, k', hk, hk', ?_⟩
  · rw [has.workspace]
    exact Workspace.read_put hs.workspace hbytes hq _
  · exact ((commentsOutside_sublist hdeclarations.subset k.comments).map _).trans hcomments

/-- A generator without routes of its own, whose storage takes every block. -/
def plainGenerator : Generator where
  settings := ⟨".", "router.go", [], "*.go", "BearerAuth", "/api", 1, false, "authorized", "public", false⟩
  routes := []

theorem processFile_preserves_twoHandlers :
    ∃ source' nodes',
      (plainGenerator.processFile "a.go" (.start ⟨[(["a.go"], .file twoHandlers)], []⟩)).2.workspace.read "a.go" =
        .ok source' ∧ nodes? source' = some nodes' ∧
      (Declaration.ofNodes nodes').map profile = [("A", "AHandler", true), ("B", "AHandler", true)] := by
  obtain ⟨nodes, hnodes, hfunctions, -, hnames, -⟩ := nodes?_twoHandlers
  have hprofiles : (Declaration.ofNodes nodes).map profile = [("A", "AHandler", true), ("B", "AHandler", true)] := by
    have hmap := congrArg (List.map fun x => (x.1, x.2.1, x.2.2.1)) hfunctions
    rwa [List.map_map] at hmap
  have hclean : ∀ name ∈ ["A", "B"], plainGenerator.CleanRoute name := by decide +kernel
  obtain ⟨source', nodes', hread, hparses, -, hsame, -⟩ := plainGenerator.processFile_preserves rfl
    (Session.sound_start (by decide +kernel)) (by decide +kernel)
    (Session.current_start ⟨[(["a.go"], .file twoHandlers)], []⟩ "a.go") hnodes
    fun h hh => hclean h.name (hnames ▸ List.mem_map_of_mem hh)
  exact ⟨source', nodes', hread, hparses, hsame ▸ hprofiles⟩

/-! ## A line end in a method -/

/-- A file with one handler to be documented, whose route has no placeholders. -/
theorem processFile_one (hdry : g.settings.dryRun = false) (hw : s.workspace.Sound) {source : List UInt8}
    (hq : s.workspace.locate path = .ok q) (hbytes : s.workspace.entryAt q = some (.file source))
    (hcurrent : s.Current path) {name receiver : String} {start stop : Nat}
    (hpending : (nodes? source).map (fun nodes => (pendingOf (Declaration.ofNodes nodes)).map fun h =>
      (h.name, h.receiver, h.declaration.docStart.offset, h.declaration.start.offset)) =
        some [(name, receiver, start, stop)])
    (htaken : ∀ h, g.accepts path h = true)
    (hplaceholders : Route.placeholders (Route.resolve g.routes g.lead name).path = []) (hscalar : g.ScalarRoute name) :
    (g.processFile path s).1.raised = none ∧
      (g.processFile path s).2.workspace = s.workspace.put q (.file (replaceRange source start stop
        (commentLines (DocBlock.commentTexts g.scheme [] name receiver
          (Route.resolve g.routes g.lead name))))) := by
  obtain ⟨nodes, hnodes, hpending⟩ := Option.map_eq_some_iff.1 hpending
  obtain ⟨as, why, has⟩ := g.processFile_handles hdry hw hq hbytes hcurrent hnodes
  obtain ⟨h, hone⟩ : ∃ h, pendingOf (Declaration.ofNodes nodes) = [h] := by
    rw [← List.length_eq_one_iff]
    simpa using congrArg List.length hpending
  rw [hone, List.map_singleton, List.singleton_inj] at hpending
  simp only [Prod.mk.injEq] at hpending
  obtain ⟨rfl, rfl, rfl, rfl⟩ := hpending
  have hread : s.workspace.read path = .ok source := Workspace.read_eq_ok_iff.2 ⟨q, hq, hbytes⟩
  have hraised := (g.processFile_raised_iff hdry hw hread hcurrent hnodes).2 (by simpa [hone] using fun _ => hscalar)
  have hedits := congrArg List.reverse (has.edits g hraised)
  rw [← List.map_reverse, List.reverse_reverse, hone, List.filter_eq_self.2 fun h _ => htaken h] at hedits
  refine ⟨hraised, ?_⟩
  rw [has.workspace, hedits]
  unfold blockEdits annotate
  simp only [List.map_singleton, List.reverse_singleton, applyEdits, List.foldl_cons, List.foldl_nil, Declaration.edit,
    DocBlock.utf8_block, DocBlock.commentTexts, DocBlock.lines, DocBlock.paramLines, hplaceholders, List.map_nil]

/-- A handler whose route has a line end in its method. -/
def brokenGenerator : Generator :=
  { plainGenerator with routes := [("A", ⟨"/a", "get\n\x7d", "A", false⟩)] }

def oneHandler : List UInt8 := Text.utf8 "func (h *AHandler) A(c *g.Context) \x7b\x7d\n"

/-- The lines of a handler without a request type, whose route has no placeholders and none of the usual methods. -/
theorem lines_oddMethod (path method : CodeText) (hpath : Route.placeholders path = [])
    (hmethod : (method == "get") = false ∧ (method == "post") = false ∧ (method == "delete") = false) :
    DocBlock.lines "BearerAuth" [] "A" "AHandler" ⟨path, method, "A", false⟩ =
      ["A godoc", "@Summary A", "@Description A", "@Tags a", "@Accept json", "@Produce json",
        "@Param req body types.AReq true \"req\"",
        "@Success 200 \x7bobject\x7d types.Response\x7bdata=types.AResp\x7d \"Success\"",
        "@Failure 400 \x7bobject\x7d types.Response \"Bad request\"",
        "@Failure 401 \x7bobject\x7d types.Response \"Unauthorized\"",
        "@Failure 500 \x7bobject\x7d types.Response \"Internal server error\""].map CodeText.ofString ++
      ["@Router " ++ path ++ " [" ++ method ++ "]"] := by
  obtain ⟨hget, hpost, hdelete⟩ := hmethod
  have hwords : DocBlock.summary "A" = "A" ∧ DocBlock.describe "A" = "A" ∧ DocBlock.tag "AHandler" = "a" := by
    decide +kernel
  unfold DocBlock.lines DocBlock.paramLines DocBlock.requestLine DocBlock.successLine DocBlock.statusCode
  dsimp only
  rw [hpath, hget, hpost, hdelete, hwords.1, hwords.2.1, hwords.2.2]
  rfl

theorem nodes?_oneHandler :
    (nodes? oneHandler).map (fun nodes => (pendingOf (Declaration.ofNodes nodes)).map fun h =>
      (h.name, h.receiver, h.declaration.docStart.offset, h.declaration.start.offset)) =
        some [("A", "AHandler", 0, 0)] := by
  rw [oneHandler, DocBlock.utf8_ofList]
  decide +kernel

/-- **A line end in a method breaks the file**: the path and the scheme stay on their lines, and yet
the file cannot be parsed afterwards. -/
theorem processFile_breaks :
    (nodes? oneHandler).isSome = true ∧
      (Route.resolve brokenGenerator.routes brokenGenerator.lead "A").path.OneLine ∧ brokenGenerator.scheme.OneLine ∧
      ∃ source', (brokenGenerator.processFile "a.go" (.start ⟨[(["a.go"], .file oneHandler)], []⟩)).2.workspace.read
        "a.go" = .ok source' ∧ nodes? source' = none := by
  have hroute : Route.resolve brokenGenerator.routes brokenGenerator.lead "A" =
      ⟨"/api/a", "get\n\x7d", "A", false⟩ := by decide +kernel
  have hplaceholders : Route.placeholders "/api/a" = [] := by decide +kernel
  have hw : Workspace.Sound ⟨[(["a.go"], .file oneHandler)], []⟩ := by decide +kernel
  have hq : Workspace.locate ⟨[(["a.go"], .file oneHandler)], []⟩ "a.go" = .ok ["a.go"] := by decide +kernel
  have hbytes : Workspace.entryAt ⟨[(["a.go"], .file oneHandler)], []⟩ ["a.go"] = some (.file oneHandler) := rfl
  obtain ⟨-, hworkspace⟩ := brokenGenerator.processFile_one rfl hw hq hbytes
    (Session.current_start ⟨[(["a.go"], .file oneHandler)], []⟩ "a.go") nodes?_oneHandler (fun _ => rfl)
    (by rw [hroute]; exact hplaceholders) (by decide +kernel)
  obtain ⟨nodes, hnodes, -⟩ := Option.map_eq_some_iff.1 nodes?_oneHandler
  refine ⟨by rw [hnodes]; rfl, by rw [hroute]; decide, by decide, replaceRange oneHandler 0 0 (commentLines
    (DocBlock.commentTexts "BearerAuth" [] "A" "AHandler" ⟨"/api/a", "get\n\x7d", "A", false⟩)), ?_, ?_⟩
  · rw [hworkspace, hroute]
    exact Workspace.read_put hw hbytes hq _
  · rw [← Option.isNone_iff_eq_none, oneHandler, DocBlock.commentTexts, lines_oddMethod _ _ hplaceholders (by decide)]
    -- The kernel is slow on the bytes of a string, so the texts become lists of characters first.
    simp only [List.map_cons, List.map_nil, List.cons_append, List.nil_append, CodeText.utf8_append,
      CodeText.utf8_ofString]
    repeat rw [DocBlock.utf8_ofList]
    decide +kernel

end Generator

end RouteDoc
