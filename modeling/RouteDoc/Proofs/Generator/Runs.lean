/-
How a run goes.

A run handles the handler files between some notes and ends with what became of
them (`run_eq`): with a report, unless the handling of a file was broken off
(`verdict`). The files are at places of their own (`Apart`), and handling them
changes no other one (`processFiles_frame`).
-/
import RouteDoc.Proofs.Generator.Rewriting
import RouteDoc.Proofs.Workspace.HandlerFiles

namespace RouteDoc

open Go

namespace Generator

variable (g : Generator) {w : Workspace} {s : Session} {path : String}

/-- What holds of every handler of a file that is not documented. -/
def PendingIn (w : Workspace) (P : String → Handler → Prop) (path : String) : Prop :=
  ∀ bytes nodes, w.read path = .ok bytes → nodes? bytes = some nodes →
    ∀ h ∈ pendingOf (Declaration.ofNodes nodes), P path h

/-- That can be looked up in the file. -/
theorem pendingIn_of_all {P : String → Handler → Prop} [∀ path h, Decidable (P path h)]
    (hall : ((w.read path).toOption.bind nodes?).all fun nodes =>
      (pendingOf (Declaration.ofNodes nodes)).all fun h => decide (P path h)) : PendingIn w P path := by
  intro bytes nodes hread hnodes h hh
  rw [hread] at hall
  change ((nodes? bytes).all _) = true at hall
  rw [hnodes, Option.all_some, List.all_eq_true] at hall
  exact of_decide_eq_true (hall h hh)

/-! ## One file after the other -/

/-- The session that a file at a place of its own leaves to the others. -/
theorem processFile_leaves (hw : s.workspace.Sound) {q : Place} (hq : s.workspace.locate path = .ok q)
    {path' : String} {q' : Place} (hq' : s.workspace.locate path' = .ok q') (hne : q' ≠ q) :
    (s.Current path' → (g.processFile path s).2.Current path') ∧
      (g.processFile path s).2.workspace.locate path' = .ok q' ∧
      (g.processFile path s).2.workspace.entryAt q' = s.workspace.entryAt q' ∧
      (g.processFile path s).2.workspace.read path' = s.workspace.read path' := by
  have hturns := g.processFile_turns hw hq
  have halike := hturns.alike hw
  refine ⟨fun hcurrent => hturns.current hw hcurrent ?_, halike.locate path' ▸ hq', hturns.entryAt hne, ?_⟩
  · intro hkey
    rw [Session.keyOf, Workspace.locate_absolute hw hq'] at hkey
    exact hne (Except.ok.inj hkey)
  · refine (halike.read_eq fun p hp => ?_).symm
    rw [hq'] at hp
    rw [← Except.ok.inj hp, hturns.entryAt hne]

/-- Files that are read and written one after the other, each at a place of its own. -/
structure Apart (s : Session) (files : List String) : Prop where
  found : ∀ f ∈ files, ∃ q bytes, s.workspace.locate f = .ok q ∧ s.workspace.entryAt q = some (.file bytes)
  distinct : files.Pairwise fun f f' => s.workspace.locate f ≠ s.workspace.locate f'
  current : ∀ f ∈ files, s.Current f

theorem Apart.rest (hw : s.workspace.Sound) {files : List String} (h : Apart s (path :: files)) :
    Apart (g.processFile path s).2 files ∧
      ∀ f ∈ files, (g.processFile path s).2.workspace.read f = s.workspace.read f := by
  obtain ⟨⟨q, bytes, hq, -⟩, hfiles⟩ := List.forall_mem_cons.1 h.found
  obtain ⟨hdistinct, hpairs⟩ := List.pairwise_cons.1 h.distinct
  obtain ⟨-, hcurrent⟩ := List.forall_mem_cons.1 h.current
  have hleaves : ∀ f ∈ files, ∃ q' bytes', s.workspace.entryAt q' = some (.file bytes') ∧
      (s.Current f → (g.processFile path s).2.Current f) ∧
      (g.processFile path s).2.workspace.locate f = .ok q' ∧
      (g.processFile path s).2.workspace.entryAt q' = s.workspace.entryAt q' ∧
      (g.processFile path s).2.workspace.read f = s.workspace.read f := by
    intro f hf
    obtain ⟨q', bytes', hq', hbytes'⟩ := hfiles f hf
    have hne : q' ≠ q := by
      rintro rfl
      exact hdistinct f hf (hq.trans hq'.symm)
    exact ⟨q', bytes', hbytes', g.processFile_leaves hw hq hq' hne⟩
  have halike := (g.processFile_turns hw hq).alike hw
  refine ⟨⟨fun f hf => ?_, ?_, fun f hf => ?_⟩, fun f hf => ?_⟩
  · obtain ⟨q', bytes', hbytes', -, hq', hsame, -⟩ := hleaves f hf
    exact ⟨q', bytes', hq', hsame.trans hbytes'⟩
  · exact hpairs.imp fun h => by rw [← halike.locate, ← halike.locate]; exact h
  · obtain ⟨_, _, _, hstill, -⟩ := hleaves f hf
    exact hstill (hcurrent f hf)
  · obtain ⟨_, _, _, _, _, _, hread⟩ := hleaves f hf
    exact hread

/-- Handling files changes nothing but these files. -/
theorem processFiles_frame {files : List String} (hw : s.workspace.Sound) (hapart : Apart s files) :
    s.workspace.Alike (g.processFiles files s).2.workspace ∧
      ∀ p, (∀ f ∈ files, s.workspace.locate f ≠ .ok p) →
        (g.processFiles files s).2.workspace.entryAt p = s.workspace.entryAt p := by
  induction files generalizing s with
  | nil => exact ⟨.refl _, fun _ _ => rfl⟩
  | cons f files ih =>
    obtain ⟨⟨q, bytes, hq, -⟩, -⟩ := List.forall_mem_cons.1 hapart.found
    have hturns := g.processFile_turns hw hq
    have halike := hturns.alike hw
    obtain ⟨hrest, -⟩ := hapart.rest g hw
    obtain ⟨halike', hframe⟩ := ih (halike.sound hw) hrest
    refine ⟨halike.trans halike', fun p hp => ?_⟩
    obtain ⟨hpf, hp⟩ := List.forall_mem_cons.1 hp
    have hlater := hframe p fun f' hf' => by rw [← halike.locate]; exact hp f' hf'
    refine hlater.trans (hturns.entryAt ?_)
    rintro rfl
    exact hpf hq

/-! ## Runs -/

/-- How a run ends with these results. -/
def verdict (results : List FileResult) : Except Failure Report :=
  match results.findSome? FileResult.raised with
  | some failure => .error failure
  | none => .ok ⟨totalOf results, results⟩

theorem verdict_of_raised {results : List FileResult} (h : ∀ r ∈ results, r.raised = none) :
    verdict results = .ok ⟨totalOf results, results⟩ := by
  rw [verdict, List.findSome?_eq_none_iff.2 h]

theorem verdict_eq_ok_iff {results : List FileResult} {report : Report} :
    verdict results = .ok report ↔ (∀ r ∈ results, r.raised = none) ∧ ⟨totalOf results, results⟩ = report := by
  rw [← List.findSome?_eq_none_iff, verdict]
  cases results.findSome? FileResult.raised with
  | none => simp
  | some failure => simp

theorem verdict_error {results : List FileResult} {failure : Failure} (h : verdict results = .error failure) :
    ∃ r ∈ results, r.raised = some failure := by
  unfold verdict at h
  split at h
  · rename_i hsome
    rw [← Except.error.inj h]
    exact List.exists_of_findSome?_eq_some hsome
  · cases h

theorem conclude_eq (results : List FileResult) (s : Session) :
    (g.conclude results s).1 = verdict results ∧ (g.conclude results s).2.workspace = s.workspace := by
  have hnotes : ∀ notes : List Note, (if g.settings.verbose = true then notes.foldl Session.note s else s).workspace =
      s.workspace := by
    intro notes
    split
    · exact Session.foldl_note_workspace _ _
    · rfl
  unfold conclude verdict
  dsimp only
  cases results.findSome? FileResult.raised with
  | some failure => exact ⟨rfl, hnotes _⟩
  | none => exact ⟨rfl, (Session.foldl_note_workspace _ _).trans (hnotes _)⟩

theorem opened_eq (files : Nat) (s : Session) : ∃ notes, g.opened files s = { s with notes } := by
  unfold opened
  split
  · exact ⟨_, rfl⟩
  · exact ⟨_, rfl⟩

/-- A run is the handling of the handler files, with notes before and behind it. -/
theorem run_eq {files : List String}
    (h : Discovery.handlerFiles s.workspace g.settings.handlerDir g.settings.handlerPattern = .ok files)
    (hne : files ≠ []) :
    ∃ notes s', g.run s = (verdict (g.processFiles files { s with notes }).1, s') ∧
      s'.workspace = (g.processFiles files { s with notes }).2.workspace := by
  obtain ⟨notes, hopened⟩ := g.opened_eq files.length s
  have hrun : g.run s = g.conclude (g.processFiles files { s with notes }).1 (g.processFiles files { s with notes }).2 := by
    unfold run
    rw [h]
    cases files with
    | nil => exact absurd rfl hne
    | cons f files => rw [← hopened]
  obtain ⟨hverdict, hworkspace⟩ :=
    g.conclude_eq (g.processFiles files { s with notes }).1 (g.processFiles files { s with notes }).2
  exact ⟨notes, _, hrun.trans (Prod.ext hverdict rfl), hworkspace⟩

theorem processFiles_singleton (path : String) (s : Session) :
    g.processFiles [path] s = ([(g.processFile path s).1], (g.processFile path s).2) := rfl

/-- A run over one file that is handled to the end. -/
theorem run_singleton
    (h : Discovery.handlerFiles s.workspace g.settings.handlerDir g.settings.handlerPattern = .ok [path])
    (hraised : ∀ notes, (g.processFile path { s with notes }).1.raised = none) :
    ∃ notes s', g.run s = (.ok ⟨totalOf [(g.processFile path { s with notes }).1],
        [(g.processFile path { s with notes }).1]⟩, s') ∧
      s'.workspace = (g.processFile path { s with notes }).2.workspace := by
  obtain ⟨notes, s', hrun, hworkspace⟩ := g.run_eq h (by simp)
  rw [processFiles_singleton] at hrun hworkspace
  dsimp only at hrun hworkspace
  rw [verdict_of_raised (List.forall_mem_singleton.2 (hraised notes))] at hrun
  exact ⟨notes, s', hrun, hworkspace⟩

theorem run_files {report : Report} {s' : Session} (h : g.run s = (.ok report, s')) :
    ∃ files, Discovery.handlerFiles s.workspace g.settings.handlerDir g.settings.handlerPattern = .ok files ∧
      files ≠ [] := by
  unfold run at h
  split at h
  · cases h
  · cases h
  · rename_i files hne hfiles
    exact ⟨files, hfiles, fun hnil => hne hnil⟩

/-- What holds of every handler that a run is to document. -/
def EveryPending (w : Workspace) (P : String → Handler → Prop) : Prop :=
  ∀ files, Discovery.handlerFiles w g.settings.handlerDir g.settings.handlerPattern = .ok files →
    ∀ f ∈ files, PendingIn w P f

theorem apart_start (hw : w.Sound) {dir pattern : String} {files : List String}
    (h : Discovery.handlerFiles w dir pattern = .ok files) (notes : List Note) :
    Apart { Session.start w with notes } files := by
  obtain ⟨hfound, hdistinct⟩ := Workspace.handlerFiles_files hw h
  exact ⟨hfound, hdistinct, fun f _ found hkept => by cases hkept⟩

/-- A tree with one file. -/
def oneFile (source : List UInt8) : Workspace := ⟨[(["a.go"], .file source)], []⟩

theorem oneFile_nil : (oneFile []).Sound ∧ (oneFile []).locate "." = .ok [] ∧
    (oneFile []).locate "./a.go" = .ok ["a.go"] ∧
    (((oneFile []).below []).filter (Discovery.matchesFile "*.go")).map (fun x => Discovery.pathBelow "." x.1) =
      ["./a.go"] := by
  decide +kernel

theorem alike_oneFile (source : List UInt8) : (oneFile []).Alike (oneFile source) :=
  ⟨rfl, .cons ⟨rfl, by simp⟩ .nil⟩

theorem handlerFiles_oneFile (source : List UInt8) :
    Discovery.handlerFiles (oneFile source) "." "*.go" = .ok ["./a.go"] := by
  obtain ⟨-, hlocate, -, hbelow⟩ := oneFile_nil
  rw [← (alike_oneFile source).handlerFiles]
  exact Workspace.handlerFiles_eq hlocate rfl hbelow (List.pairwise_singleton _ _)

theorem oneFile_sound (source : List UInt8) : (oneFile source).Sound :=
  (alike_oneFile source).sound oneFile_nil.1

theorem locate_oneFile (source : List UInt8) : (oneFile source).locate "./a.go" = .ok ["a.go"] := by
  rw [← (alike_oneFile source).locate]
  exact oneFile_nil.2.2.1

theorem put_oneFile (source bytes : List UInt8) :
    (oneFile source).put ["a.go"] (.file bytes) = oneFile bytes := by
  simp [oneFile, Workspace.put]

end Generator

end RouteDoc
