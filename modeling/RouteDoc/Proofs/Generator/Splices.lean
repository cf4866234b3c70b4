/-
The splices of a file, and what comes of them.

`fileSplices` has the outcome of every splice that handling a file asks for, in order,
and `Pool.splices` that of a task among others. A task knows the handlers it has still
to write; they were all found in a text that could be parsed (`Moves.handlers`,
`Pool.Parsed`), so their ranges are those of their doc blocks, and no splice is ever
asked for a range that is none (`splice_ranges`).
-/
import RouteDoc.Proofs.Generator.Steps
import RouteDoc.Proofs.Splicing.DocRanges

namespace RouteDoc

open Go

/-! ## Splices of a file -/

namespace Generator

variable (g : Generator)

/-- The splice that a block asks for, with what comes of it. A rehearsal splices nothing. -/
def splice? (path : String) (a : Annotated) (s : Session) : Option (Except Failure Workspace) :=
  if g.settings.dryRun then none
  else some (s.workspace.document path a.handler.declaration a.block (g.refusal path a.handler.declaration))

/-- What comes of the splices for handlers, one after the other, until one breaks it off. -/
def splices (path : String) (file : Option String) :
    List Handler → FileResult → Session → List (Except Failure Workspace)
  | [], _, _ => []
  | h :: hs, r, s =>
    let (a, s) := g.annotate file h s
    let written := g.writeBlock path file a r s
    (g.splice? path a s).toList ++ if written.1.raised.isSome then [] else splices path file hs written.1 written.2

/-- What comes of the splices in the file at a path. -/
def fileSplices (path : String) (s : Session) : List (Except Failure Workspace) :=
  match collect (some (PathText.base path)) path s with
  | (.error _, _) => []
  | (.ok (counts, pending), s) =>
    g.splices path (some (PathText.base path)) pending.reverse ⟨path, counts, none, [], none⟩ s

variable {g} {path : String} {s s' : Session}

theorem splice?_dry (hdry : g.settings.dryRun = true) (a : Annotated) : g.splice? path a s = none := if_pos hdry

theorem splices_dry (hdry : g.settings.dryRun = true) (file : Option String) (hs : List Handler) (r : FileResult) :
    g.splices path file hs r s = [] := by
  induction hs generalizing r s with
  | nil => rfl
  | cons h hs ih => simp [splices, splice?_dry hdry, ih]

theorem fileSplices_dry (hdry : g.settings.dryRun = true) : g.fileSplices path s = [] := by
  unfold fileSplices
  split
  · rfl
  · exact splices_dry hdry ..

/-- Every splice of handlers is that of one of them. -/
theorem mem_splices {file : Option String} {hs : List Handler} {r : FileResult} {x : Except Failure Workspace}
    (hx : x ∈ g.splices path file hs r s) : ∃ h ∈ hs, ∃ a s', a.handler = h ∧ g.splice? path a s' = some x := by
  induction hs generalizing r s with
  | nil => simp [splices] at hx
  | cons h hs ih =>
    simp only [splices, List.mem_append, Option.mem_toList] at hx
    rcases hx with hx | hx
    · exact ⟨h, List.mem_cons_self, _, _, rfl, hx⟩
    · split at hx
      · cases hx
      · obtain ⟨h', hh', hfound⟩ := ih hx
        exact ⟨h', List.mem_cons_of_mem h hh', hfound⟩

end Generator

/-! ## Splices of a task -/

namespace Task

/-- The splice that the next step of a task asks for. -/
def splice? (g : Generator) (path : String) : Task → Session → Option (Except Failure Workspace)
  | .writing a _ _, s => g.splice? path a s
  | _, _ => none

/-- The handlers that a task has still to write. -/
def handlers : Task → List Handler
  | .waiting | .done _ => []
  | .asking hs _ => hs
  | .listing h hs _ _ | .searching h hs _ _ _ | .answering h hs _ _ => h :: hs
  | .writing a hs _ => a.handler :: hs

end Task

/-- What comes of the splices of the task with number `i`, over a schedule. -/
def Pool.splices (g : Generator) (i : Nat) : List Nat → Pool → List (Except Failure Workspace)
  | [], _ => []
  | j :: schedule, p =>
    (if j = i then (p.tasks[i]?.bind fun x => x.2.splice? g x.1 p.session).toList else []) ++
      splices g i schedule (p.step g j)

namespace Generator

variable {g : Generator} {path : String} {t t' : Task} {s s' : Session}

/-- A task finds its handlers where it reads its file, and gives up one after the other. -/
theorem Moves.handlers (h : g.Moves path t s t' s') :
    t'.handlers <:+ t.handlers ∨ ∃ source, (s.source (some (PathText.base path)) path).1 = .ok source ∧
      t'.handlers = (pendingOf source.declarations).reverse := by
  cases h with
  | picked ns hsource => exact .inr ⟨_, congrArg Prod.fst hsource, rfl⟩
  | wrote _ _ => exact .inl (List.suffix_cons _ _)
  | broke _ _ => exact .inl List.nil_suffix
  | failed _ _ | ended | known _ | unnamed _ _ | named _ _ | listed | exhausted _ | skipped _ _ | missed _ _ | found _ _
  | overtaken _ | answered _ | rests => exact .inl (List.suffix_refl _)

end Generator

/-! ## Texts that were parsed -/

/-- Every source that is kept is a text with its nodes. -/
def Session.Parses (s : Session) : Prop := ∀ e ∈ s.sources, nodes? e.2.bytes = some e.2.nodes

/-- The function of a handler was found in a text. -/
def Handler.InText (h : Handler) : Prop :=
  ∃ text nodes, nodes? text = some nodes ∧ h.declaration ∈ Declaration.ofNodes nodes

theorem Go.Source.load_parses {w : Workspace} {path : String} {source : Source} (h : Source.load w path = .ok source) :
    nodes? source.bytes = some source.nodes := by
  unfold Source.load at h
  split at h
  · cases h
  split at h
  · cases h
  · rename_i hnodes
    obtain rfl := Except.ok.inj h
    exact hnodes

namespace Session

variable {s : Session}

theorem Parses.source (h : s.Parses) (file : Option String) (path : String) :
    (s.source file path).2.Parses ∧
      ∀ source, (s.source file path).1 = .ok source → nodes? source.bytes = some source.nodes := by
  obtain ⟨found, hkept, hs⟩ | ⟨failure, -, -, hs⟩ | ⟨found, n, -, hload, hs⟩ := source_cases file path s
  · obtain ⟨e, he, rfl⟩ := Option.map_eq_some_iff.1 hkept
    rw [hs]
    exact ⟨h, fun source hsource => Except.ok.inj hsource ▸ h e (List.mem_of_find?_eq_some he)⟩
  · rw [hs]
    exact ⟨h, fun _ hsource => nomatch hsource⟩
  · have hfound := Source.load_parses hload
    rw [hs]
    refine ⟨fun e he => ?_, fun source hsource => Except.ok.inj hsource ▸ hfound⟩
    rcases List.mem_append.1 he with he | he
    · exact h e he
    · rw [List.mem_singleton.1 he]
      exact hfound

theorem foldl_note_sources (ns : List Note) (s : Session) : (ns.foldl note s).sources = s.sources := by
  induction ns generalizing s with
  | nil => rfl
  | cons n ns ih => exact ih (s.note n)

end Session

namespace Generator

variable {g : Generator} {path : String} {t t' : Task} {s s' : Session}

theorem inText_of_pending {source : Source} (h : nodes? source.bytes = some source.nodes) {x : Handler}
    (hx : x ∈ pendingOf source.declarations) : x.InText := by
  have hmem : x.declaration ∈ source.declarations.filter isPending := by
    rw [← pendingOf_declarations]
    exact List.mem_map_of_mem hx
  exact ⟨source.bytes, source.nodes, h, List.mem_of_mem_filter hmem⟩

theorem Moves.parses (h : g.Moves path t s t' s') (hs : s.Parses) : s'.Parses := by
  have hread : ∀ {p found s₁}, s.source (some (PathText.base path)) p = (found, s₁) → s₁.Parses := by
    intro p found s₁ hsource
    have hparses := (hs.source (some (PathText.base path)) p).1
    rwa [hsource] at hparses
  cases h with
  | failed _ hsource | skipped _ hsource => exact fun e he => hread hsource e he
  | picked ns hsource =>
    unfold Session.Parses
    rw [Session.foldl_note_sources]
    exact hread hsource
  | missed hsource _ | found hsource _ => exact hread hsource
  | @wrote _ _ a _ r _ hwritten | @broke _ _ a _ r _ hwritten =>
    have hsources := (g.writeBlock_memory path (some (PathText.base path)) a r s).1
    rw [hwritten] at hsources
    unfold Session.Parses
    rw [hsources]
    exact hs
  | ended | known _ | unnamed _ _ | named _ _ | listed | exhausted _ | overtaken _ | answered _ | rests => exact hs

/-- **One step** of a task leaves it with handlers of texts. -/
theorem Moves.inText (h : g.Moves path t s t' s') (hs : s.Parses) (ht : ∀ x ∈ t.handlers, x.InText) :
    ∀ x ∈ t'.handlers, x.InText := by
  rcases h.handlers with hsuffix | ⟨source, hsource, hpending⟩
  · exact fun x hx => ht x (hsuffix.subset hx)
  · intro x hx
    rw [hpending, List.mem_reverse] at hx
    exact inText_of_pending ((hs.source _ path).2 source hsource) hx

end Generator

namespace Pool

variable {g : Generator} {p : Pool}

/-- All that a pool knows of functions comes from texts that could be parsed. -/
structure Parsed (p : Pool) : Prop where
  session : p.session.Parses
  tasks : ∀ x ∈ p.tasks, ∀ h ∈ x.2.handlers, h.InText

theorem parsed_start {s : Session} (hs : s.Parses) (files : List String) : (start files s).Parsed := by
  refine ⟨hs, fun x hx h hh => ?_⟩
  obtain ⟨f, -, rfl⟩ := List.mem_map.1 hx
  cases hh

theorem Parsed.step (h : p.Parsed) (i : Nat) : (p.step g i).Parsed := by
  unfold Pool.step
  cases hget : p.tasks[i]? with
  | none => exact h
  | some x =>
    obtain ⟨path, t⟩ := x
    have hmoves := g.step_moves path t p.session
    refine ⟨hmoves.parses h.session, fun x hx => ?_⟩
    rcases List.mem_or_eq_of_mem_set hx with hx | rfl
    · exact h.tasks x hx
    · exact hmoves.inText h.session (h.tasks _ (List.mem_of_getElem? hget))

/-- **Every splice of a schedule** is that of a handler of a text. -/
theorem Parsed.mem_splices (h : p.Parsed) {i : Nat} {schedule : List Nat} {x : Except Failure Workspace}
    (hx : x ∈ p.splices g i schedule) :
    ∃ path a s, a.handler.InText ∧ g.splice? path a s = some x := by
  induction schedule generalizing p with
  | nil => simp [splices] at hx
  | cons j schedule ih =>
    rw [splices, List.mem_append] at hx
    rcases hx with hx | hx
    · split at hx
      · obtain ⟨⟨path, t⟩, hget, hsplice⟩ := Option.bind_eq_some_iff.1 (Option.mem_toList.1 hx)
        have hhandlers := h.tasks _ (List.mem_of_getElem? hget)
        cases t with
        | writing a hs r => exact ⟨path, a, p.session, hhandlers a.handler List.mem_cons_self, hsplice⟩
        | waiting | asking _ _ | listing _ _ _ _ | searching _ _ _ _ _ | answering _ _ _ _ | done _ => cases hsplice
      · cases hx
    · exact ih (h.step j) hx

end Pool

/-! ## Ranges -/

theorem Handler.InText.ordered {h : Handler} (hh : h.InText) :
    h.declaration.docStart.offset ≤ h.declaration.start.offset := by
  obtain ⟨text, nodes, hnodes, hmem⟩ := hh
  exact ((nodes_laid hnodes).ownRange hmem).ordered

namespace Generator

variable {g : Generator} {path : String} {s : Session}

/-- The splice of a function that was found in a text has a range. -/
theorem splice?_ranged {a : Annotated} (ha : a.handler.InText) (start stop : Int) :
    g.splice? path a s ≠ some (.error (.spliceRange start stop)) := by
  intro hsplice
  unfold splice? at hsplice
  split at hsplice
  · cases hsplice
  have hresult := Option.some.inj hsplice
  have hle := ha.ordered
  rw [Workspace.document, Workspace.splice] at hresult
  split at hresult
  · rename_i failure w' hrewrite
    obtain rfl := Except.error.inj hresult
    have hrewrites := Workspace.rewrite_rewrites (.ofRefusal s.workspace (g.refusal path a.handler.declaration))
      s.workspace path a.handler.declaration.docStart.offset a.handler.declaration.start.offset a.block
      a.handler.declaration.name (by decide : 0 < Workspace.chunkSize)
    have hfirst := congrArg Prod.fst hrewrite
    obtain ⟨hsame | ⟨_, hother⟩ | hother | ⟨_, hother⟩, -⟩ := hrewrites.failure hfirst
    · rw [hsame] at hfirst
      exact hrewrites.range_iff.1 hfirst ⟨by omega, by omega⟩
    all_goals cases hother
  · cases hresult

theorem fileSplices_ranged (hs : s.Parses) (path : String) (start stop : Int) :
    .error (.spliceRange start stop) ∉ g.fileSplices path s := by
  intro hx
  unfold fileSplices collect at hx
  cases hsource : s.source (some (PathText.base path)) path with
  | mk found s' =>
    rw [hsource] at hx
    cases found with
    | error failure => cases hx
    | ok source =>
      obtain ⟨h, hh, a, s₁, rfl, hsplice⟩ := mem_splices hx
      have hnodes := (hs.source (some (PathText.base path)) path).2 source (by rw [hsource])
      exact splice?_ranged (inText_of_pending hnodes (List.mem_reverse.1 hh)) start stop hsplice

/-- **The ranges that splices replace.** In a file that could be loaded, the range of a function lies in the file in
front of it. Its doc comments are in it and no part of another node is, and no byte of it but blanks and line ends is
outside of its doc comments; that range is what a splice takes out of the file, and nothing else. Ranges lie in order,
behind the functions before them, and no comment is in two of them. No splice, of a file alone or of files side by
side, is refused for its range. -/
theorem splice_ranges {w : Workspace} {path : String} {source : Source} (hload : Source.load w path = .ok source) :
    (∀ d ∈ source.declarations, OwnRange source.bytes.length source.nodes d ∧
      (∀ i, d.docStart.offset ≤ i → i < d.start.offset → Unread d.doc i source.bytes[i]?) ∧
      ∀ (w' : Workspace) (path' : String) (q : Place) (block : CodeText), w'.locate path' = .ok q →
        w'.entryAt q = some (.file source.bytes) → block.Scalar →
        w'.document path' d block = .ok (w'.put q (.file
          (source.bytes.take d.docStart.offset ++ block.utf8 ++ source.bytes.drop d.start.offset)))) ∧
    source.declarations.Pairwise (fun d e => d.start.offset < e.docStart.offset ∧ ∀ c ∈ d.doc, c ∉ e.doc) ∧
    ∀ (g : Generator) (s : Session), s.Parses → ∀ start stop : Int,
      (∀ path, .error (.spliceRange start stop) ∉ g.fileSplices path s) ∧
        ∀ files schedule i, .error (.spliceRange start stop) ∉ (Pool.start files s).splices g i schedule := by
  have hnodes := Source.load_parses hload
  obtain ⟨hown, hordered⟩ := (nodes_laid hnodes).ranges
  refine ⟨fun d hd => ⟨hown d hd, fun i => docRange_bytes hnodes hd, ?_⟩, hordered, ?_⟩
  · intro w' path' q block hq hbytes hblock
    rw [Workspace.document_eq hq hbytes (hown d hd).ordered (hown d hd).within, CodeText.encode_of_scalar hblock]
    rfl
  · intro g s hs start stop
    refine ⟨fun path => fileSplices_ranged hs path start stop, fun files schedule i hx => ?_⟩
    obtain ⟨path, a, s', ha, hsplice⟩ := (Pool.parsed_start hs files).mem_splices hx
    exact splice?_ranged ha start stop hsplice

/-- The second of two functions has a range of one comment and a line end, and no splice is refused for its range. -/
theorem splice_ranges_twoHandlers :
    ∃ source, Source.load (oneFile twoHandlers) "./a.go" = .ok source ∧
      source.declarations.map (fun d => (d.docStart.offset, d.start.offset)) = [(0, 0), (39, 45)] ∧
      source.declarations.Pairwise (fun d e => d.start.offset < e.docStart.offset ∧ ∀ c ∈ d.doc, c ∉ e.doc) ∧
      ∀ start stop, .error (.spliceRange start stop) ∉ takesFirst.fileSplices "./a.go" (.start (oneFile twoHandlers)) := by
  obtain ⟨nodes, hnodes, -, hranges, -⟩ := nodes?_twoHandlers
  have hload : Source.load (oneFile twoHandlers) "./a.go" = .ok ⟨"./a.go", twoHandlers, nodes⟩ := by
    rw [load_found (locate_oneFile twoHandlers) rfl, hnodes]
  obtain ⟨-, hordered, hranged⟩ := splice_ranges hload
  have hstart : (Session.start (oneFile twoHandlers)).Parses := fun e he => nomatch he
  exact ⟨_, hload, hranges, hordered, fun start stop => (hranged takesFirst _ hstart start stop).1 "./a.go"⟩

end Generator

end RouteDoc
