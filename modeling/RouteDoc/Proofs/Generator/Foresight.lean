/-
What a session finds, foreseen from the tree it started with.

What a session says about a type (`Session.structure?`) is not changed by reading
files, and writing a file changes it for that file only, if the session does not keep
it. So every request type that a session finds is the one that a tree declares
(`Foreseen`), as long as files are only written that are kept or that go on declaring
what they declared (`Foreseen.write`), and then every block is the one that can be
read off the tree (`Foreseen.annotate`).
-/
import RouteDoc.Proofs.Generator.Schedules

namespace RouteDoc

open Go

/-! ## Structures -/

namespace RequestType

/-- The parameters of the first structure of a name. -/
def inStructures? (name : String) (structures : List (String × List (TypeExpr × Option (List UInt8)))) :
    Option RequestType :=
  (structures.find? fun e => e.1 == name).map fun e => ofFields e.2

theorem inTypes?_eq (name : String) (declared : List DeclaredType) :
    inTypes? name declared = inStructures? name (declared.filterMap DeclaredType.structure?) := by
  induction declared with
  | nil => rfl
  | cons t declared ih =>
    have hcons : inTypes? name (t :: declared) =
        (if t.name == name then ofType? t.type else none).or (inTypes? name declared) := by
      rw [inTypes?, inTypes?, List.findSome?_cons]
      cases if t.name == name then ofType? t.type else none <;> rfl
    have hstructure : t.structure? = t.type.fields?.map fun fields => (t.name, fields) := rfl
    rw [hcons, ih, List.filterMap_cons, hstructure]
    cases t.type with
    | struct fields => by_cases hname : t.name = name <;> simp [ofType?, TypeExpr.fields?, inStructures?, hname]
    | _ => simp [ofType?, TypeExpr.fields?]

theorem structuresIn_eq (source : Source) :
    structuresIn source.nodes = source.types.filterMap DeclaredType.structure? := by
  rw [Source.types, List.filterMap_flatMap]
  refine List.flatMap_congr fun n _ => ?_
  cases n.kind with
  | comment text => rfl
  | item x => cases x <;> rfl

end RequestType

/-- What a file that can be read says about a name. -/
theorem load_structure {w : Workspace} {path : String} {q : Place} {bytes : List UInt8} (hq : w.locate path = .ok q)
    (hbytes : w.entryAt q = some (.file bytes)) (name : String) :
    (Source.load w path).toOption.bind (fun found => RequestType.inTypes? name found.types) =
      ((nodes? bytes).map structuresIn).bind (RequestType.inStructures? name) := by
  rw [Generator.load_found hq hbytes]
  cases nodes? bytes with
  | none => rfl
  | some nodes =>
    have hsource := RequestType.structuresIn_eq ⟨path, bytes, nodes⟩
    rw [Option.map_some, Option.bind_some, hsource, ← RequestType.inTypes?_eq]
    rfl

/-! ## What a session says -/

namespace Session

variable {s s' : Session} {name path : String}

/-- What a session says about a name where it looks into the file at a path. -/
def structure? (s : Session) (name path : String) : Option RequestType :=
  ((s.kept? path).or (Source.load s.workspace (s.keyOf path)).toOption).bind fun found =>
    RequestType.inTypes? name found.types

theorem source_structure (file : Option String) (name path : String) (s : Session) :
    (s.source file path).1.toOption.bind (fun found => RequestType.inTypes? name found.types) =
      s.structure? name path := by
  unfold structure?
  obtain ⟨found, hkept, hs⟩ | ⟨failure, hkept, hload, hs⟩ | ⟨found, n, hkept, hload, hs⟩ := source_cases file path s
  · rw [hs, hkept]; rfl
  · rw [hs, hkept, hload]; rfl
  · rw [hs, hkept, hload]; rfl

/-- Reading a file does not change what a session says. -/
theorem structure?_source (file : Option String) (path' : String) (s : Session) (name path : String) :
    (s.source file path').2.structure? name path = s.structure? name path := by
  obtain ⟨_, _, hs⟩ | ⟨_, _, _, hs⟩ | ⟨found, n, hkept, hload, hs⟩ := source_cases file path' s
  · rw [hs]
  · rw [hs]
  · rw [hs, structure?, structure?, kept?_append]
    cases s.kept? path with
    | some _ => rw [Option.some_or, Option.some_or, Option.some_or]
    | none =>
      rw [Option.none_or, Option.none_or]
      split
      · rename_i hkey
        rw [beq_iff_eq] at hkey
        rw [← hkey, hload, Option.some_or]
        rfl
      · rw [Option.none_or]
        rfl

/-- Reading a file keeps no other. -/
theorem kept?_source_ne (file : Option String) {path' : String} (hne : s.keyOf path' ≠ s.keyOf path) :
    (s.source file path').2.kept? path = s.kept? path := by
  obtain ⟨_, _, hs⟩ | ⟨_, _, _, hs⟩ | ⟨found, n, _, _, hs⟩ := source_cases file path' s
  · rw [hs]
  · rw [hs]
  · rw [hs, kept?_append, if_neg (by simpa using hne), Option.or_none]

theorem structure?_congr (hworkspace : s'.workspace = s.workspace) (hsources : s'.sources = s.sources)
    (name path : String) : s'.structure? name path = s.structure? name path := by
  rw [structure?, structure?, kept?, kept?, keyOf, keyOf, hworkspace, hsources]

/-- Writing a file does not change what a session says about others. -/
theorem structure?_put_ne {q : Place} {bytes : List UInt8} (hw : s.workspace.Sound)
    (hbytes : s.workspace.entryAt q = some (.file bytes)) (bytes' : List UInt8)
    (hpath : s.workspace.locate (s.keyOf path) ≠ .ok q) (name : String) :
    structure? { s with workspace := s.workspace.put q (.file bytes') } name path = s.structure? name path := by
  have hload : Source.load (s.workspace.put q (.file bytes')) (s.keyOf path) =
      Source.load s.workspace (s.keyOf path) := by
    have hput := Workspace.alike_put hw hbytes bytes'
    refine (load_eq (hput.read_eq fun p hp => (Workspace.entryAt_put_ne hbytes _ ?_).symm)).symm
    rintro rfl
    exact hpath hp
  rw [structure?, structure?, kept?_put hw hbytes, keyOf_put hw hbytes, hload]

/-- What a session says about a file that it does not keep, once it is written. -/
theorem structure?_put_self {q : Place} {bytes : List UInt8} (hw : s.workspace.Sound)
    (hbytes : s.workspace.entryAt q = some (.file bytes)) (bytes' : List UInt8)
    (hpath : s.workspace.locate (s.keyOf path) = .ok q) (hkept : s.kept? path = none) (name : String) :
    structure? { s with workspace := s.workspace.put q (.file bytes') } name path =
      ((nodes? bytes').map structuresIn).bind (RequestType.inStructures? name) := by
  have hput := Workspace.alike_put hw hbytes bytes'
  rw [structure?, kept?_put hw hbytes, hkept, keyOf_put hw hbytes, Option.none_or]
  exact load_structure (hput.locate _ ▸ hpath) (Workspace.entryAt_put_self hbytes _) name

/-- A search finds what the session says about the first file that it says anything about. -/
theorem searchFiles_structure (file : Option String) (name : String) (paths : List String) (s : Session) :
    (s.searchFiles file name paths).1 = paths.findSome? (s.structure? name) ∧
      ∀ name' path, (s.searchFiles file name paths).2.structure? name' path = s.structure? name' path := by
  induction paths generalizing s with
  | nil => exact ⟨rfl, fun _ _ => rfl⟩
  | cons p paths ih =>
    have hfound := source_structure file name p s
    have hsame := structure?_source file p s
    unfold searchFiles
    rw [List.findSome?_cons]
    cases hsource : s.source file p with
    | mk found s' =>
      rw [hsource] at hfound hsame
      have hrest : s'.structure? name = s.structure? name := funext (hsame name)
      cases found with
      | error failure =>
        obtain ⟨hfirst, hstays⟩ := ih (s'.note ⟨.warning, loggerName "reflector", "Skipping type source",
          [("path", .str p), ("error", .str failure.reason)], file⟩)
        rw [← hfound]
        exact ⟨hfirst.trans (congrArg (fun f => paths.findSome? f) hrest), fun name' path =>
          (hstays name' path).trans (hsame name' path)⟩
      | ok found =>
        change RequestType.inTypes? name found.types = _ at hfound
        rw [← hfound]
        dsimp only
        cases RequestType.inTypes? name found.types with
        | some type => exact ⟨rfl, hsame⟩
        | none =>
          obtain ⟨hfirst, hstays⟩ := ih s'
          exact ⟨hfirst.trans (congrArg (fun f => paths.findSome? f) hrest), fun name' path =>
            (hstays name' path).trans (hsame name' path)⟩

/-- A search reads no further than to the first file with the structure. -/
theorem searchFiles_first {type : RequestType} (h : s.structure? name path = some type) (file : Option String)
    (paths : List String) : s.searchFiles file name (path :: paths) = (some type, (s.source file path).2) := by
  have hfound := source_structure file name path s
  rw [h] at hfound
  unfold searchFiles
  cases hsource : s.source file path with
  | mk found s' =>
    rw [hsource] at hfound
    cases found with
    | error failure => cases hfound
    | ok found =>
      change RequestType.inTypes? name found.types = some type at hfound
      simp only [hfound]

/-- What a session answers to a name with its package that nobody has looked up. -/
def answer (s : Session) (patterns : List String) (qualified : String) : RequestType :=
  match typeNameOf qualified with
  | none => []
  | some name => ((typeFiles s.workspace patterns).findSome? (s.structure? name)).getD []

theorem answer_congr (hworkspace : s'.workspace = s.workspace) (hsources : s'.sources = s.sources)
    (patterns : List String) (qualified : String) : s'.answer patterns qualified = s.answer patterns qualified := by
  have hsame : s'.structure? = s.structure? := funext₂ (structure?_congr hworkspace hsources)
  rw [answer, answer, hworkspace, hsame]

theorem search_structure (patterns : List String) (file : Option String) (qualified : String) (s : Session) :
    (s.search patterns file qualified).1 = s.answer patterns qualified ∧
      ∀ name path, (s.search patterns file qualified).2.structure? name path = s.structure? name path := by
  unfold search answer
  cases typeNameOf qualified with
  | none => exact ⟨rfl, fun _ _ => rfl⟩
  | some name =>
    have hfiles := searchFiles_structure file name (typeFiles s.workspace patterns) s
    dsimp only
    cases hsearch : s.searchFiles file name (typeFiles s.workspace patterns) with
    | mk found s' =>
      rw [hsearch] at hfiles
      rw [← hfiles.1]
      cases found with
      | some type => exact ⟨rfl, hfiles.2⟩
      | none => exact ⟨rfl, hfiles.2⟩

end Session

namespace Generator

variable (g : Generator) {w : Workspace} {files : List String} {path : String} {q : Place} {bytes : List UInt8}
  {s s' : Session}

/-- Picking handlers reads their file and does nothing else. -/
theorem collect_session (file : Option String) (path : String) (s : Session) :
    ∃ notes, (collect file path s).2 = { (s.source file path).2 with notes } := by
  have hnotes : ∀ (ns : List Note) (s : Session), ns.foldl Session.note s = { s with notes := s.notes ++ ns } := by
    intro ns
    induction ns with
    | nil => simp
    | cons n ns ih =>
      intro s
      rw [List.foldl_cons, ih]
      simp [Session.note]
  unfold collect
  split
  · rename_i heq
    rw [heq]
    exact ⟨_, rfl⟩
  · rename_i heq
    rw [heq]
    exact ⟨_, hnotes _ _⟩

theorem collect_requestTypes (file : Option String) (path : String) (s : Session) :
    (collect file path s).2.requestTypes = s.requestTypes := by
  obtain ⟨notes, hcollect⟩ := collect_session file path s
  rw [hcollect]
  exact Session.source_requestTypes file path s

theorem kept?_collect_ne (file : Option String) {path' : String} (hne : s.keyOf path' ≠ s.keyOf path) :
    (collect file path' s).2.kept? path = s.kept? path := by
  obtain ⟨notes, hcollect⟩ := collect_session file path' s
  rw [hcollect]
  exact Session.kept?_source_ne file hne

/-! ## What a tree foresees -/

/-- A session in which every request type is the one that a tree declares, whatever has become of its files. -/
structure Foreseen (w : Workspace) (s : Session) : Prop where
  alike : w.Alike s.workspace
  structures : ∀ t ∈ typeFiles w g.settings.typesPaths, ∀ name, s.structure? name t = structureIn w name t
  answers : ∀ e ∈ s.requestTypes, e.2 = g.answerIn w e.1

namespace Foreseen

variable {g}

theorem start (w : Workspace) (notes : List Note) : g.Foreseen w { Session.start w with notes } := by
  refine ⟨.refl w, fun t _ name => ?_, fun _ he => nomatch he⟩
  have hkept : Session.kept? { Session.start w with notes } t = none := rfl
  rw [Session.structure?, hkept, Option.none_or]
  rfl

theorem congr (h : g.Foreseen w s) (hworkspace : s'.workspace = s.workspace) (hsources : s'.sources = s.sources)
    (hanswers : s'.requestTypes = s.requestTypes) : g.Foreseen w s' := by
  refine ⟨hworkspace ▸ h.alike, fun t ht name => ?_, hanswers ▸ h.answers⟩
  rw [Session.structure?_congr hworkspace hsources, h.structures t ht]

theorem source (h : g.Foreseen w s) (file : Option String) (path : String) : g.Foreseen w (s.source file path).2 := by
  refine ⟨?_, fun t ht name => ?_, ?_⟩
  · rw [Session.source_workspace]
    exact h.alike
  · rw [Session.structure?_source, h.structures t ht]
  · rw [Session.source_requestTypes]
    exact h.answers

theorem collect (h : g.Foreseen w s) (file : Option String) (path : String) :
    g.Foreseen w (collect file path s).2 := by
  obtain ⟨notes, hcollect⟩ := collect_session file path s
  rw [hcollect]
  exact (h.source file path).congr rfl rfl rfl

theorem answer (h : g.Foreseen w s) (qualified : String) :
    s.answer g.settings.typesPaths qualified = g.answerIn w qualified := by
  unfold Session.answer answerIn
  cases typeNameOf qualified with
  | none => rfl
  | some name =>
    have hfirst : ∀ paths : List String, (∀ p ∈ paths, p ∈ typeFiles w g.settings.typesPaths) →
        paths.findSome? (s.structure? name) = paths.findSome? (structureIn w name) := by
      intro paths hpaths
      induction paths with
      | nil => rw [List.findSome?_nil, List.findSome?_nil]
      | cons p paths ih =>
        obtain ⟨hp, hpaths⟩ := List.forall_mem_cons.1 hpaths
        rw [List.findSome?_cons, List.findSome?_cons, h.structures p hp, ih hpaths]
    simp only [← h.alike.typeFiles, hfirst _ fun _ hp => hp]

theorem requestType (h : g.Foreseen w s) (file : Option String) (qualified : String) :
    (s.requestType g.settings.typesPaths file qualified).1 = g.answerIn w qualified ∧
      g.Foreseen w (s.requestType g.settings.typesPaths file qualified).2 := by
  unfold Session.requestType
  cases hfind : s.requestTypes.find? fun e => e.1 == qualified with
  | some e =>
    have hname : e.1 = qualified := by simpa using List.find?_some hfind
    refine ⟨?_, h⟩
    rw [← hname]
    exact h.answers e (List.mem_of_find?_eq_some hfind)
  | none =>
    obtain ⟨hfound, hsame⟩ := Session.search_structure g.settings.typesPaths file qualified s
    obtain ⟨hworkspace, hanswers⟩ := Session.search_reads g.settings.typesPaths file qualified s
    rw [h.answer] at hfound
    dsimp only
    refine ⟨hfound, hworkspace ▸ h.alike, fun t ht name => ?_, fun e he => ?_⟩
    · rw [← h.structures t ht, ← hsame]
      exact Session.structure?_congr rfl rfl name t
    · rw [hanswers] at he
      rcases List.mem_append.1 he with he | he
      · exact h.answers e he
      · rw [List.mem_singleton.1 he]
        exact hfound

/-- **Every block is foreseen.** -/
theorem annotate (h : g.Foreseen w s) (file : Option String) (x : Handler) :
    (g.annotate file x s).1 = g.annotatedIn w x ∧ g.Foreseen w (g.annotate file x s).2 := by
  obtain ⟨htype, hforeseen⟩ := h.requestType file (DocBlock.requestName x.name)
  refine ⟨?_, hforeseen⟩
  unfold Generator.annotate annotatedIn annotated
  simp only [htype]

/-- A file may be written that is kept, or that declares the structures it declared. -/
theorem write (h : g.Foreseen w s) (hw : w.Sound) (hbytes : s.workspace.entryAt q = some (.file bytes))
    (bytes' : List UInt8)
    (hsame : ∀ t ∈ typeFiles w g.settings.typesPaths, w.locate (PathText.absolute w.cwdText t) = .ok q →
      (s.kept? t).isSome = true ∨ (nodes? bytes').map structuresIn = (nodes? bytes).map structuresIn) :
    g.Foreseen w { s with workspace := s.workspace.put q (.file bytes') } := by
  have hw' := h.alike.sound hw
  refine ⟨h.alike.trans (Workspace.alike_put hw' hbytes bytes'), fun t ht name => ?_, h.answers⟩
  rw [← h.structures t ht]
  by_cases hq : s.workspace.locate (s.keyOf t) = .ok q
  · have habsolute : w.locate (PathText.absolute w.cwdText t) = .ok q := by
      rw [h.alike.locate, h.alike.cwdText]
      exact hq
    cases hkept : s.kept? t with
    | some found =>
      rw [Session.structure?, Session.structure?, Session.kept?_put hw' hbytes, hkept, Option.some_or, Option.some_or]
    | none =>
      have hstructures := (hsame t ht habsolute).resolve_left (by simp [hkept])
      rw [Session.structure?_put_self hw' hbytes bytes' hq hkept, hstructures, Session.structure?, hkept,
        Option.none_or, load_structure hq hbytes]
  · exact Session.structure?_put_ne hw' hbytes bytes' hq name

end Foreseen

end Generator

end RouteDoc
