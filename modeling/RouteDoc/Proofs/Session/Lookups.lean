/-
What a session says about request types over time.

Every lookup of a name after the first gives the answer of the first, and the names are
kept in order (`Remembers`). Reading files does not change what a session says about
types, so a session that has only seen the files of one tree says what the tree says
(`Mirrors`), whatever it has read and been asked before. `requestType_steady` puts the
two together.
-/
import RouteDoc.Proofs.Generator.Foresight
import RouteDoc.Proofs.Session.Histories

namespace RouteDoc

open Go

namespace Session

variable {w : Workspace} {s : Session} {patterns : List String}

/-- What looking up a name does. -/
theorem requestType_cases (patterns : List String) (file : Option String) (name : String) (s : Session) :
    (∃ type, (s.requestTypes.find? fun e => e.1 == name) = some (name, type) ∧
      s.requestType patterns file name = (type, s)) ∨
    ((s.requestTypes.find? fun e => e.1 == name) = none ∧
      (s.requestType patterns file name).1 = (s.search patterns file name).1 ∧
      (s.requestType patterns file name).2.sources = (s.search patterns file name).2.sources ∧
      (s.requestType patterns file name).2.requestTypes =
        s.requestTypes ++ [(name, (s.search patterns file name).1)]) := by
  cases hfind : s.requestTypes.find? fun e => e.1 == name with
  | some e =>
    have hname : e.1 = name := by simpa using List.find?_some hfind
    exact .inl ⟨e.2, by rw [← hname], requestType_of_found hfind patterns file⟩
  | none =>
    refine .inr ⟨rfl, ?_⟩
    rw [requestType, hfind, ← (search_reads patterns file name s).2]
    exact ⟨rfl, rfl, rfl⟩

theorem mem_requestNames {name : String} :
    name ∈ s.requestNames ↔ (s.requestTypes.find? fun e => e.1 == name).isSome = true := by
  rw [List.find?_isSome, requestNames, List.mem_map]
  simp

/-- Looking up a name does not change what a session says. -/
theorem structure?_requestType (patterns : List String) (file : Option String) (qualified : String) (s : Session)
    (name path : String) : (s.requestType patterns file qualified).2.structure? name path = s.structure? name path := by
  obtain ⟨_, -, hs⟩ | ⟨-, -, hsources, -⟩ := requestType_cases patterns file qualified s
  · rw [hs]
  · rw [← (search_structure patterns file qualified s).2]
    apply structure?_congr
    · rw [requestType_workspace, (search_reads patterns file qualified s).1]
    · exact hsources

theorem among_eq (h : s.workspace = w) : s.among w = s := by
  subst h
  rfl

/-- Among the files of a tree, the session says about types what the tree says. -/
def Mirrors (w : Workspace) (s : Session) : Prop :=
  ∀ name path, (s.among w).structure? name path = (start w).structure? name path

theorem mirrors_of_sources (h : ∀ e ∈ s.sources, Source.load w e.1 = .ok e.2) : s.Mirrors w := by
  intro name path
  have hkeyOf : (s.among w).keyOf path = (start w).keyOf path := rfl
  have hworkspace : (s.among w).workspace = w ∧ (start w).workspace = w := ⟨rfl, rfl⟩
  have hsources : (s.among w).sources = s.sources ∧ (start w).sources = [] := ⟨rfl, rfl⟩
  rw [structure?, structure?, kept?, kept?, hkeyOf, hworkspace.1, hworkspace.2, hsources.1, hsources.2, List.find?_nil,
    Option.map_none, Option.none_or]
  cases hfind : s.sources.find? fun e => e.1 == (start w).keyOf path with
  | none => rw [Option.map_none, Option.none_or]
  | some e =>
    have hload := h e (List.mem_of_find?_eq_some hfind)
    have hkey : e.1 = (start w).keyOf path := by simpa using List.find?_some hfind
    rw [← hkey, hload]
    rfl

theorem Mirrors.answer (h : s.Mirrors w) (hw : s.workspace = w) (patterns : List String) (name : String) :
    s.answer patterns name = (start w).answer patterns name := by
  subst hw
  have hsame : s.structure? = (start s.workspace).structure? := funext₂ h
  rw [Session.answer, Session.answer, hsame]
  rfl

theorem requestType_start (w : Workspace) (patterns : List String) (file : Option String) (name : String) :
    ((start w).requestType patterns file name).1 = (start w).answer patterns name :=
  (search_structure patterns file name (start w)).1

/-- A session whose answers are those of a session that was asked nothing else, among the files of a tree. -/
structure Faithful (patterns : List String) (w : Workspace) (s : Session) : Prop where
  mirrors : s.Mirrors w
  answers : ∀ e ∈ s.requestTypes, e.2 = (start w).answer patterns e.1

theorem Faithful.requestType (h : s.Faithful patterns w) (hw : s.workspace = w) (file : Option String)
    (name : String) : (s.requestType patterns file name).2.Faithful patterns w := by
  refine ⟨fun name' path => ?_, ?_⟩
  · rw [among_eq ((requestType_workspace patterns file name s).trans hw), structure?_requestType, ← among_eq hw]
    exact h.mirrors name' path
  · obtain ⟨type, -, hs⟩ | ⟨-, -, -, hanswers⟩ := requestType_cases patterns file name s
    · rw [hs]
      exact h.answers
    · have hfound := (search_structure patterns file name s).1
      rw [h.mirrors.answer hw] at hfound
      rw [hanswers]
      exact List.forall_mem_append.2 ⟨h.answers, List.forall_mem_singleton.2 hfound⟩

end Session

namespace History

/-- A session that has all the answers it gave. -/
structure Remembers (h : History RequestType) : Prop where
  names : h.session.requestNames = (h.asked.map Asked.text).eraseDups
  answers : ∀ t ∈ h.asked, (h.session.requestTypes.find? fun e => e.1 == t.text) = some (t.text, t.answer)

namespace Remembers

variable {h : History RequestType} {patterns : List String}

theorem start {s : Session} (hnew : s.requestTypes = []) : Remembers ⟨[], s⟩ where
  names := by rw [Session.requestNames, hnew]; rfl
  answers := fun _ ht => nomatch ht

theorem ask (h' : Remembers h) (file : Option String) (name : String) :
    Remembers (h.next (Session.requestType patterns) (.ask file name)) := by
  have hmem : name ∈ h.asked.map Asked.text ↔ name ∈ h.session.requestNames := by
    rw [h'.names, List.mem_eraseDups]
  obtain ⟨type, hfind, hs⟩ | ⟨hfind, hanswer, -, hanswers⟩ := Session.requestType_cases patterns file name h.session
  · rw [next, hs]
    refine ⟨?_, List.forall_mem_append.2 ⟨h'.answers, List.forall_mem_singleton.2 hfind⟩⟩
    have hold : name ∈ h.asked.map Asked.text := by rw [hmem, Session.mem_requestNames, hfind]; rfl
    rw [List.map_append, List.map_singleton, eraseDups_concat, if_pos hold]
    exact h'.names
  · rw [next, hanswer]
    refine ⟨?_, List.forall_mem_append.2 ⟨fun t ht => ?_, List.forall_mem_singleton.2 ?_⟩⟩
    · have hnew : name ∉ h.asked.map Asked.text := by rw [hmem, Session.mem_requestNames, hfind]; simp
      rw [List.map_append, List.map_singleton, eraseDups_concat, if_neg hnew, ← h'.names, Session.requestNames,
        hanswers]
      exact List.map_append
    · rw [hanswers, List.find?_append, h'.answers t ht, Option.some_or]
    · rw [hanswers, List.find?_append, hfind, Option.none_or, List.find?_singleton, beq_self_eq_true, if_pos rfl]

theorem change (h' : Remembers h) (entries : List (Place × Entry)) :
    Remembers (h.next (Session.requestType patterns) (.change entries)) := ⟨h'.names, h'.answers⟩

end Remembers

theorem remembers (patterns : List String) {s : Session} (hnew : s.requestTypes = []) (events : List Event) :
    Remembers (play (Session.requestType patterns) s events) :=
  play_invariant _ (Remembers.start hnew) (fun _ file name h => h.ask file name)
    (fun _ entries h => h.change entries) events

theorem faithful (patterns : List String) {w : Workspace} {s : Session} (hs : s.Faithful patterns w)
    (events : List Event) :
    (∀ t ∈ (play (Session.requestType patterns) s events).asked, t.workspace = w) →
      (play (Session.requestType patterns) s events).session.Faithful patterns w := by
  refine play_invariant _ (P := fun h => (∀ t ∈ h.asked, t.workspace = w) → h.session.Faithful patterns w)
    (fun _ => hs) (fun h file name ih hall => ?_) (fun h entries ih hall => ?_) events
  · obtain ⟨hall, hnow⟩ := List.forall_mem_append.1 hall
    exact (ih hall).requestType (hnow _ List.mem_cons_self) file name
  · -- What the session says among the files of the tree does not depend on the files around it.
    exact ⟨(ih hall).mirrors, (ih hall).answers⟩

/-- **A name keeps its answer**, whatever becomes of the files, also where nothing was found; the names are
remembered in the order of their first lookup, each once. While every lookup finds the files of one tree, and the
sources that the session brought along are of that tree, every answer is that of a session that has read nothing and
was asked nothing else. -/
theorem requestType_steady (patterns : List String) {s : Session} (hnew : s.requestTypes = []) (events : List Event) :
    let h := play (Session.requestType patterns) s events
    (∀ t ∈ h.asked, ∀ t' ∈ h.asked, t.text = t'.text → t.answer = t'.answer) ∧
    h.session.requestNames = (h.asked.map Asked.text).eraseDups ∧
    ∀ w, (∀ e ∈ s.sources, Source.load w e.1 = .ok e.2) → (∀ t ∈ h.asked, t.workspace = w) →
      ∀ t ∈ h.asked, ∀ file, t.answer = ((Session.start w).requestType patterns file t.text).1 := by
  intro h
  have hremembers : Remembers h := remembers patterns hnew events
  refine ⟨fun t ht t' ht' htext => ?_, hremembers.names, fun w hsources hall t ht file => ?_⟩
  · have hfind := hremembers.answers t ht
    rw [htext, hremembers.answers t' ht'] at hfind
    exact (congrArg Prod.snd (Option.some.inj hfind)).symm
  · have hfaithful := faithful patterns
      ⟨Session.mirrors_of_sources hsources, by rw [hnew]; exact fun _ he => nomatch he⟩ events hall
    rw [Session.requestType_start]
    exact hfaithful.answers _ (List.mem_of_find?_eq_some (hremembers.answers t ht))

/-- A tree with one type. -/
def typedTree : Workspace :=
  ⟨[(["t.go"], .file (Text.utf8 "type A struct \x7b\n\tX int `uri:\"x\"`\n\x7d\n"))], []⟩

/-- Between two lookups, the tree is gone for a while. -/
def lookups : List Event :=
  [.ask none "t.B", .ask none "t.A", .change [], .change typedTree.entries, .ask none "t.A"]

theorem answer_typedTree :
    (Session.start typedTree).answer ["t.go"] "t.A" = [("x", ⟨"x", "integer", false⟩)] := by
  have hname : typeNameOf "t.A" = some "A" := by decide +kernel
  have hworkspace : (Session.start typedTree).workspace = typedTree := rfl
  have hfiles : typeFiles typedTree ["t.go"] = ["t.go"] := by
    have hexpand : Glob.expand typedTree "t.go" = ["t.go"] := by decide +kernel
    rw [typeFiles, List.flatMap_singleton, Glob.expandSorted, hexpand, Text.sortStrings, List.mergeSort_singleton]
    decide +kernel
  have hstructure : (Session.start typedTree).structure? "A" "t.go" = some [("x", ⟨"x", "integer", false⟩)] := by
    rw [typedTree, DocBlock.utf8_ofList]
    decide +kernel
  simp only [Session.answer, hname, hworkspace, hfiles, List.findSome?_cons, hstructure, Option.getD_some]

theorem requestType_steady_typedTree :
    let h := play (Session.requestType ["t.go"]) (Session.start typedTree) lookups
    h.session.requestNames = ["t.B", "t.A"] ∧
      ∀ t ∈ h.asked, t.text = "t.A" → t.answer = [("x", ⟨"x", "integer", false⟩)] := by
  intro h
  obtain ⟨-, hnames, hfresh⟩ := requestType_steady ["t.go"] (s := Session.start typedTree) rfl lookups
  refine ⟨hnames, fun t ht htext => ?_⟩
  have hall : ∀ t ∈ h.asked, t.workspace = typedTree := by
    simp [h, play, lookups, next, Session.requestType_workspace, Session.among, Session.start]
  have hanswer := hfresh typedTree (fun _ he => absurd he List.not_mem_nil) hall t ht none
  rw [hanswer, htext, Session.requestType_start, answer_typedTree]

end History

end RouteDoc
