/-
What a session answers over time.

A history is a session with all the questions it was asked; between two of them the
files may be changed from outside in any way, while the working directory stays.

`source_first`: a source is what its file said when it was first read with success,
under whatever spelling of its path. What could not be read is not kept, and is looked
at again.
-/
import RouteDoc.Proofs.Generator.Sessions

namespace RouteDoc

open Go

/-! ## Histories -/

/-- What can happen to a session: somebody asks, on behalf of a handler file, or the files are changed. -/
inductive Event where
  | ask (file : Option String) (text : String)
  | change (entries : List (Place × Entry))

/-- A question, the files as they were when it was asked, and the answer. -/
structure Asked (α : Type) where
  text : String
  workspace : Workspace
  answer : α

/-- A session with all that it was asked, in order. -/
structure History (α : Type) where
  asked : List (Asked α)
  session : Session

/-- The session among other files. -/
def Session.among (s : Session) (w : Workspace) : Session := { s with workspace := w }

namespace History

variable {α : Type} (ask : Option String → String → Session → α × Session)

def next (h : History α) : Event → History α
  | .ask file text =>
    ⟨h.asked ++ [⟨text, h.session.workspace, (ask file text h.session).1⟩], (ask file text h.session).2⟩
  | .change entries => ⟨h.asked, h.session.among { h.session.workspace with entries := entries }⟩

/-- The history of a session to which events happen, one after the other. -/
def play (s : Session) (events : List Event) : History α := events.foldl (next ask) ⟨[], s⟩

/-- What every event preserves holds at every time. -/
theorem play_invariant {P : History α → Prop} {s : Session} (hstart : P ⟨[], s⟩)
    (hask : ∀ h file text, P h → P (h.next ask (.ask file text)))
    (hchange : ∀ h entries, P h → P (h.next ask (.change entries))) (events : List Event) :
    P (play ask s events) := by
  refine List.foldlRecOn events (next ask) hstart fun h hh e _ => ?_
  cases e with
  | ask file text => exact hask h file text hh
  | change entries => exact hchange h entries hh

end History

/-- One more element at the end counts if it is new. -/
theorem eraseDups_concat (xs : List String) (x : String) :
    (xs ++ [x]).eraseDups = if x ∈ xs then xs.eraseDups else xs.eraseDups ++ [x] := by
  rw [List.eraseDups_append, List.removeAll]
  by_cases hx : x ∈ xs
  · simp [hx]
  · simp [hx, List.eraseDups_cons]

/-! ## Sources -/

namespace Session

theorem load_cases (w : Workspace) (path : String) :
    (∃ bytes nodes, w.read path = .ok bytes ∧ nodes? bytes = some nodes ∧
      Source.load w path = .ok ⟨path, bytes, nodes⟩) ∨
    ∃ reason, (∀ bytes, w.read path = .ok bytes → nodes? bytes = none) ∧
      Source.load w path = .error (.unparsable path reason) := by
  cases hread : w.read path with
  | error fault =>
    refine .inr ⟨fault.message path, fun _ h => (nomatch h), ?_⟩
    rw [Source.load, hread]
  | ok bytes =>
    cases hnodes : nodes? bytes with
    | none =>
      refine .inr ⟨"syntax error", fun bytes' h => Except.ok.inj h ▸ hnodes, ?_⟩
      simp only [Source.load, hread, hnodes]
    | some nodes =>
      refine .inl ⟨bytes, nodes, rfl, hnodes, ?_⟩
      simp only [Source.load, hread, hnodes]

/-- When asking for a source fails. -/
theorem source_failures (file : Option String) (path : String) (s : Session) :
    ((∃ failure, (s.source file path).1 = .error failure) ↔
      s.keeps path = false ∧ ∀ bytes, s.workspace.read (s.keyOf path) = .ok bytes → nodes? bytes = none) ∧
    (∀ failure, (s.source file path).1 = .error failure →
      (∃ reason, failure = .unparsable (s.keyOf path) reason) ∧ (s.source file path).2 = s) ∧
    (s.keeps path = false → (s.source file path).1 = Source.load s.workspace (s.keyOf path)) := by
  have hload := load_cases s.workspace (s.keyOf path)
  unfold keeps
  obtain ⟨found, hkept, hs⟩ | ⟨failure, hkept, hfails, hs⟩ | ⟨found, n, hkept, hfound, hs⟩ := source_cases file path s
  · simp [hs, hkept]
  · rw [hfails] at hload
    obtain ⟨_, _, _, _, hok⟩ | ⟨reason, hunread, herror⟩ := hload
    · cases hok
    · rw [hs, hkept, hfails]
      cases herror
      simpa using hunread
  · rw [hfound] at hload
    obtain ⟨bytes, nodes, hread, hnodes, -⟩ | ⟨_, _, herror⟩ := hload
    · rw [hs, hkept, hfound]
      simp [hread, hnodes]
    · cases herror

/-- The paths that sources are kept under. -/
def keys (s : Session) : List String := s.sources.map (·.1)

theorem keeps_iff (s : Session) (path : String) : s.keeps path = true ↔ s.keyOf path ∈ s.keys := by
  rw [keeps, kept?, Option.isSome_map, List.find?_isSome, keys, List.mem_map]
  simp

theorem kept?_eq_none_iff (s : Session) (path : String) : s.kept? path = none ↔ s.keyOf path ∉ s.keys := by
  rw [← keeps_iff, keeps, ← Option.isNone_iff_eq_none]
  cases s.kept? path <;> simp

end Session

namespace Asked

/-- The absolute path that was asked for. -/
def key {α : Type} (t : Asked α) : String := PathText.absolute t.workspace.cwdText t.text

def succeeded (t : Asked (Except Failure Source)) : Bool := t.answer.isOk

/-- The first question for an absolute path that got a source. -/
def first? (ts : List (Asked (Except Failure Source))) (key : String) : Option (Asked (Except Failure Source)) :=
  ts.find? fun t => t.succeeded && t.key == key

/-- A source is what the file said at the time of the first question that got one. -/
def FirstSays (ts : List (Asked (Except Failure Source))) (key : String) (found : Source) : Prop :=
  ∃ t bytes nodes, first? ts key = some t ∧ t.workspace.read key = .ok bytes ∧ nodes? bytes = some nodes ∧
    found = ⟨key, bytes, nodes⟩

/-- The absolute paths for which somebody got a source, each once. -/
def foundKeys (ts : List (Asked (Except Failure Source))) : List String :=
  ((ts.filter succeeded).map key).eraseDups

variable {ts : List (Asked (Except Failure Source))} {t : Asked (Except Failure Source)}

theorem mem_foundKeys {key : String} : key ∈ foundKeys ts ↔ ∃ t ∈ ts, t.succeeded = true ∧ t.key = key := by
  simp [foundKeys, List.mem_eraseDups, and_assoc]

theorem FirstSays.concat {key : String} {found : Source} (h : FirstSays ts key found)
    (t : Asked (Except Failure Source)) : FirstSays (ts ++ [t]) key found := by
  obtain ⟨t', bytes, nodes, hfirst, htold⟩ := h
  refine ⟨t', bytes, nodes, ?_, htold⟩
  rw [first?] at hfirst ⊢
  rw [List.find?_append, hfirst, Option.some_or]

theorem firstSays_new {found : Source} (hnew : t.key ∉ foundKeys ts) (hanswer : t.answer = .ok found)
    (hload : Source.load t.workspace t.key = .ok found) : FirstSays (ts ++ [t]) t.key found := by
  obtain ⟨bytes, nodes, hread, hnodes, htold⟩ | ⟨_, _, hfails⟩ := Session.load_cases t.workspace t.key
  · refine ⟨t, bytes, nodes, ?_, hread, hnodes, Except.ok.inj (hload.symm.trans htold)⟩
    have hnone : first? ts t.key = none := by
      rw [first?, List.find?_eq_none]
      intro t' ht' hfound
      rw [Bool.and_eq_true, beq_iff_eq] at hfound
      exact hnew (mem_foundKeys.2 ⟨t', ht', hfound⟩)
    rw [first?] at hnone ⊢
    rw [List.find?_append, hnone, Option.none_or, List.find?_singleton, succeeded, hanswer]
    simp [Except.isOk, Except.toBool]
  · rw [hfails] at hload
    cases hload

theorem foundKeys_concat_found (h : t.succeeded = true) :
    foundKeys (ts ++ [t]) = if t.key ∈ foundKeys ts then foundKeys ts else foundKeys ts ++ [t.key] := by
  rw [foundKeys, List.filter_append, List.filter_singleton, h, cond_true, List.map_append, List.map_singleton,
    eraseDups_concat]
  simp only [foundKeys, List.mem_eraseDups]

theorem foundKeys_concat_failed (h : t.succeeded = false) : foundKeys (ts ++ [t]) = foundKeys ts := by
  rw [foundKeys, List.filter_append, List.filter_singleton, h, cond_false, List.append_nil, foundKeys]

end Asked

namespace History

/-- A session that keeps, of all it was asked for, what the files said when it first read them. -/
structure Reads (place : Place) (h : History (Except Failure Source)) : Prop where
  cwd : h.session.workspace.cwd = place
  askedCwd : ∀ t ∈ h.asked, t.workspace.cwd = place
  keys : h.session.keys = Asked.foundKeys h.asked
  kept : ∀ path found, h.session.kept? path = some found → Asked.FirstSays h.asked (h.session.keyOf path) found
  answers : ∀ t ∈ h.asked, ∀ found, t.answer = .ok found → Asked.FirstSays h.asked t.key found

namespace Reads

variable {place : Place} {h : History (Except Failure Source)}

theorem start (w : Workspace) : Reads w.cwd ⟨[], Session.start w⟩ where
  cwd := rfl
  askedCwd := fun _ ht => nomatch ht
  keys := rfl
  kept := fun _ _ hkept => nomatch hkept
  answers := fun _ ht => nomatch ht

theorem keyOf (h' : Reads place h) (path : String) :
    h.session.keyOf path = PathText.absolute (Workspace.placeText place) path := by
  rw [Session.keyOf, Workspace.cwdText, h'.cwd]

theorem key (h' : Reads place h) {t : Asked (Except Failure Source)} (ht : t ∈ h.asked) :
    t.key = PathText.absolute (Workspace.placeText place) t.text := by
  rw [Asked.key, Workspace.cwdText, h'.askedCwd t ht]

/-- One more question, and the session behind it. -/
theorem concat (h' : Reads place h) {t : Asked (Except Failure Source)} {s : Session}
    (hcwd : t.workspace.cwd = place ∧ s.workspace.cwd = place) (hkeys : s.keys = Asked.foundKeys (h.asked ++ [t]))
    (hkept : ∀ path found, s.kept? path = some found → Asked.FirstSays (h.asked ++ [t]) (s.keyOf path) found)
    (htold : ∀ found, t.answer = .ok found → Asked.FirstSays (h.asked ++ [t]) t.key found) :
    Reads place ⟨h.asked ++ [t], s⟩ where
  cwd := hcwd.2
  askedCwd := List.forall_mem_append.2 ⟨h'.askedCwd, List.forall_mem_singleton.2 hcwd.1⟩
  keys := hkeys
  kept := hkept
  answers := List.forall_mem_append.2
    ⟨fun t' ht' found hfound => (h'.answers t' ht' found hfound).concat t, List.forall_mem_singleton.2 htold⟩

/-- A question whose answer is kept from now on. -/
theorem keep (h' : Reads place h) {t : Asked (Except Failure Source)} (hworkspace : t.workspace = h.session.workspace)
    {found : Source} (hanswer : t.answer = .ok found) (hnew : t.key ∉ Asked.foundKeys h.asked)
    (hload : Source.load t.workspace t.key = .ok found) (n : Note) :
    Reads place ⟨h.asked ++ [t],
      ({ h.session with sources := h.session.sources ++ [(t.key, found)] } : Session).note n⟩ := by
  have htold := Asked.firstSays_new hnew hanswer hload
  have hsucceeded : t.succeeded = true := by rw [Asked.succeeded, hanswer]; rfl
  refine h'.concat ⟨hworkspace ▸ h'.cwd, h'.cwd⟩ ?_ (fun path found' hkept => ?_) fun found' hfound => ?_
  · rw [Asked.foundKeys_concat_found hsucceeded, if_neg hnew, ← h'.keys]
    exact List.map_append
  · rw [Session.kept?_append] at hkept
    cases hold : h.session.kept? path with
    | some found'' =>
      rw [hold] at hkept
      exact (h'.kept path found' (hold.trans hkept)).concat t
    | none =>
      rw [hold, Option.none_or] at hkept
      split at hkept
      · rename_i hsame
        rw [← Option.some.inj hkept]
        exact (beq_iff_eq.1 hsame) ▸ htold
      · cases hkept
  · rw [← Except.ok.inj (hanswer.symm.trans hfound)]
    exact htold

theorem ask (h' : Reads place h) (file : Option String) (path : String) :
    Reads place (h.next Session.source (.ask file path)) := by
  have hstays := fun t path found hkept => (h'.kept path found hkept).concat t
  obtain ⟨found, hkept, hs⟩ | ⟨failure, -, -, hs⟩ | ⟨found, n, hkept, hload, hs⟩ :=
    Session.source_cases file path h.session
  · -- There was a success before, and the first one stays the first.
    have hold : h.session.keyOf path ∈ Asked.foundKeys h.asked := by
      rw [← h'.keys, ← Session.keeps_iff, Session.keeps, hkept]
      rfl
    have hkeys := (Asked.foundKeys_concat_found (t := ⟨path, h.session.workspace, .ok found⟩) rfl).trans (if_pos hold)
    rw [next, hs]
    refine h'.concat ⟨h'.cwd, h'.cwd⟩ (h'.keys.trans hkeys.symm) (hstays _) fun found' hfound => ?_
    rw [← Except.ok.inj hfound]
    exact hstays _ path found hkept
  · -- A failure is no success, and the session is what it was.
    have hkeys : Asked.foundKeys (h.asked ++ [⟨path, h.session.workspace, .error failure⟩]) =
        Asked.foundKeys h.asked := Asked.foundKeys_concat_failed rfl
    rw [next, hs]
    exact h'.concat ⟨h'.cwd, h'.cwd⟩ (h'.keys.trans hkeys.symm) (hstays _) fun _ hfound => nomatch hfound
  · -- Nothing is kept for the path, so nobody had a success before.
    have hnew : h.session.keyOf path ∉ Asked.foundKeys h.asked := by
      rw [← h'.keys]
      exact (Session.kept?_eq_none_iff h.session path).1 hkept
    rw [next, hs]
    exact h'.keep (t := ⟨path, h.session.workspace, .ok found⟩) rfl rfl hnew hload n

theorem change (h' : Reads place h) (entries : List (Place × Entry)) :
    Reads place (h.next Session.source (.change entries)) where
  cwd := h'.cwd
  askedCwd := h'.askedCwd
  keys := h'.keys
  kept := h'.kept
  answers := h'.answers

end Reads

theorem reads (w : Workspace) (events : List Event) : Reads w.cwd (play Session.source (Session.start w) events) :=
  play_invariant Session.source (Reads.start w) (fun _ file path h => h.ask file path)
    (fun _ entries h => h.change entries) events

/-- **A source is what its file said when it was first read with success**, under any spelling of its path and
whatever has become of the file. A call fails where nothing was found for the path so far and the file cannot be
read or parsed; it changes nothing, so the next call looks at the file as it is then. Sources are kept for the
absolute paths for which there was a success, and for no others. -/
theorem source_first (w : Workspace) (events : List Event) :
    let h := play Session.source (Session.start w) events
    let key := PathText.absolute w.cwdText
    (∀ t ∈ h.asked, t.key = key t.text ∧
      ∀ found, t.answer = .ok found → Asked.FirstSays h.asked (key t.text) found) ∧
    (∀ file path,
      ((∃ failure, (h.session.source file path).1 = .error failure) ↔
        h.session.keeps path = false ∧
          ∀ bytes, h.session.workspace.read (key path) = .ok bytes → nodes? bytes = none) ∧
      (∀ failure, (h.session.source file path).1 = .error failure →
        (∃ reason, failure = .unparsable (key path) reason) ∧ (h.session.source file path).2 = h.session) ∧
      (h.session.keeps path = false →
        (h.session.source file path).1 = Source.load h.session.workspace (key path))) ∧
    (∀ path, h.session.keeps path = true ↔ ∃ t ∈ h.asked, t.succeeded = true ∧ t.key = key path) ∧
    h.session.sources.length = (Asked.foundKeys h.asked).length := by
  intro h key
  have hreads : Reads w.cwd h := reads w events
  have hkeyOf : ∀ path, h.session.keyOf path = key path := hreads.keyOf
  refine ⟨fun t ht => ⟨hreads.key ht, fun found hfound => ?_⟩, fun file path => ?_, fun path => ?_, ?_⟩
  · have hkey : t.key = key t.text := hreads.key ht
    exact hkey ▸ hreads.answers t ht found hfound
  · rw [← hkeyOf]
    exact h.session.source_failures file path
  · rw [Session.keeps_iff, hkeyOf, hreads.keys, Asked.mem_foundKeys]
  · rw [← hreads.keys, Session.keys, List.length_map]

/-- A file that cannot be parsed. -/
def unmended : Workspace := ⟨[(["d"], .directory), (["d", "a.go"], .file [41])], ["d"]⟩

/-- The file is mended, by a comment in place of what was in it, and then it is deleted. -/
def mended : List Event :=
  [.ask none "a.go", .change [(["d"], .directory), (["d", "a.go"], .file [47, 47, 97])], .ask none "./a.go",
    .change [(["d"], .directory)], .ask none "x/../a.go"]

theorem asked_mended :
    let h := play Session.source (Session.start unmended) mended
    h.asked.map (fun t => (t.text, t.key, t.succeeded)) =
        [("a.go", "/d/a.go", false), ("./a.go", "/d/a.go", true), ("x/../a.go", "/d/a.go", true)] ∧
      ((Asked.first? h.asked "/d/a.go").bind fun t => (t.workspace.read "/d/a.go").toOption) = some [47, 47, 97] ∧
      Asked.foundKeys h.asked = ["/d/a.go"] ∧ PathText.absolute unmended.cwdText "a.go" = "/d/a.go" := by
  decide +kernel

theorem source_first_mended :
    let h := play Session.source (Session.start unmended) mended
    h.asked.map (fun t => (t.text, t.key, t.succeeded)) =
        [("a.go", "/d/a.go", false), ("./a.go", "/d/a.go", true), ("x/../a.go", "/d/a.go", true)] ∧
      (∀ t ∈ h.asked, ∀ found, t.answer = .ok found → found.bytes = [47, 47, 97]) ∧
      h.session.keeps "a.go" = true ∧ h.session.sources.length = 1 := by
  intro h
  obtain ⟨htold, -, hkeeps, hlength⟩ := source_first unmended mended
  obtain ⟨hasked, hbytes, hfound, habsolute⟩ := asked_mended
  refine ⟨hasked, fun t ht found hanswer => ?_, ?_, ?_⟩
  · have hkey : t.key = "/d/a.go" := by
      have hmem := List.mem_map_of_mem (f := fun t => (t.text, t.key, t.succeeded)) ht
      rw [hasked] at hmem
      grind
    obtain ⟨first, bytes, nodes, hfirst, hread, -, rfl⟩ := (htold t ht).2 found hanswer
    rw [← (htold t ht).1, hkey] at hfirst hread
    rw [hfirst, Option.bind_some, hread] at hbytes
    exact Option.some.inj hbytes
  · rw [hkeeps, habsolute, ← Asked.mem_foundKeys, hfound]
    exact List.mem_singleton_self _
  · rw [hlength, hfound]
    rfl

end History

end RouteDoc
