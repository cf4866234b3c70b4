/-
Tasks end.

A file has the handlers that it had when the run began, no type file comes or
goes, and every step of a task takes it further on its way through both
(`Moves.stepsLeft`). So a task is done once it has had as many turns as that way
has steps at most, whatever the others do between them (`run_finishes`).
-/
import Mathlib.Algebra.Order.BigOperators.Group.List
import Mathlib.Algebra.Order.Group.Nat
import RouteDoc.Proofs.Generator.Steps

namespace RouteDoc

open Go

namespace Generator

variable (g : Generator) {w : Workspace} {path : String} {q : Place} {t t' : Task} {s s' : Session}

/-! ## One step -/

/-- The handlers of a file that are not documented; none where it cannot be loaded. -/
def pendingAt (w : Workspace) (path : String) : List Handler :=
  match Source.load w path with
  | .error _ => []
  | .ok source => pendingOf source.declarations

theorem mem_pendingAt {h : Handler} : h ∈ pendingAt w path ↔
    ∃ bytes nodes, w.read path = .ok bytes ∧ nodes? bytes = some nodes ∧ h ∈ pendingOf (Declaration.ofNodes nodes) := by
  unfold pendingAt Source.load
  cases hread : w.read path with
  | error fault => simp
  | ok bytes =>
    cases hnodes : nodes? bytes with
    | none => simp [hnodes]
    | some nodes => simp [hnodes, Source.declarations]

/-- How many steps it takes at most to write a block: to ask, to list the type files, to read each of them, to
see that there is no other, to answer, and to write. -/
def blockSteps (w : Workspace) : Nat := (typeFiles w g.settings.typesPaths).length + 5

/-- How many steps a task needs at most to be done. -/
def stepsLeft (w : Workspace) (path : String) : Task → Nat
  | .waiting => (pendingAt w path).length * g.blockSteps w + 2
  | .asking hs _ => hs.length * g.blockSteps w + 1
  | .listing _ hs _ _ => hs.length * g.blockSteps w + (typeFiles w g.settings.typesPaths).length + 5
  | .searching _ hs _ _ paths => hs.length * g.blockSteps w + paths.length + 4
  | .answering _ hs _ _ => hs.length * g.blockSteps w + 3
  | .writing _ hs _ => hs.length * g.blockSteps w + 2
  | .done _ => 0

theorem stepsLeft_asking (w : Workspace) (path : String) (h : Handler) (hs : List Handler) (r : FileResult) :
    g.stepsLeft w path (.asking (h :: hs) r) =
      hs.length * g.blockSteps w + (typeFiles w g.settings.typesPaths).length + 6 := by
  simp only [stepsLeft, List.length_cons, Nat.succ_mul]
  simp only [blockSteps]
  omega

variable {g}

/-- **One step** of a task that is not done is one of those that it needs. -/
theorem Moves.stepsLeft (h : g.Moves path t s t' s') (hw : w.Sound) (halike : w.Alike s.workspace)
    {bytes : List UInt8} (hq : w.locate path = .ok q) (hbytes : w.entryAt q = some (.file bytes))
    (hf : Follows w path s t) : g.stepsLeft w path t' ≤ g.stepsLeft w path t - 1 := by
  cases h with
  | picked ns hsource =>
    have hread := hf.source hw halike hq hbytes (some (PathText.base path))
    rw [hsource] at hread
    obtain ⟨_, _, herror, -⟩ | ⟨source, source', hok, hload, hsame⟩ := hread
    · cases herror
    · obtain rfl := Except.ok.inj hok
      simp only [Generator.stepsLeft, pendingAt, hload, hsame, List.length_reverse]
      omega
  | listed =>
    simp only [Generator.stepsLeft, ← halike.typeFiles]
    omega
  | known _ | unnamed _ _ | named _ _ =>
    rw [stepsLeft_asking]
    simp only [Generator.stepsLeft]
    omega
  | exhausted _ | skipped _ _ | missed _ _ | found _ _ =>
    simp only [Generator.stepsLeft, List.length_cons, List.length_nil]
    omega
  | failed _ _ | ended | overtaken _ | answered _ | wrote _ _ | broke _ _ | rests =>
    simp only [Generator.stepsLeft]
    omega

end Generator

/-! ## Every schedule -/

namespace Pool

variable {g : Generator} {w : Workspace} {s₀ : Session} {files : List String} {p : Pool}

/-- A task has as many steps less to do as it had turns. -/
theorem Course.stepsLeft (hw : s₀.workspace.Sound) (hapart : Generator.Apart s₀ files)
    (h : p.Course g s₀.workspace files) (schedule : List Nat) {i : Nat} {path : String} {t : Task}
    (hget : p.tasks[i]? = some (path, t)) :
    ∃ t', (p.run g schedule).tasks[i]? = some (path, t') ∧
      g.stepsLeft s₀.workspace path t' ≤ g.stepsLeft s₀.workspace path t - schedule.count i := by
  induction schedule generalizing p t with
  | nil => exact ⟨t, hget, by simp⟩
  | cons j schedule ih =>
    have hnext := getElem?_step g p i j
    split at hnext
    · subst j
      rw [hget] at hnext
      obtain ⟨t', hget', hsteps⟩ := ih (h.step hw hapart i) hnext
      have hmem := List.mem_of_getElem? hget
      obtain ⟨q, bytes, hq, hbytes⟩ := hapart.found path (h.paths ▸ List.mem_map_of_mem hmem)
      have hless := (g.step_moves path t p.session).stepsLeft hw h.alike hq hbytes (h.follows _ hmem)
      refine ⟨t', hget', ?_⟩
      rw [List.count_cons_self]
      dsimp only at hsteps hless
      omega
    · rename_i hne
      rw [hget] at hnext
      obtain ⟨t', hget', hsteps⟩ := ih (h.step hw hapart j) hnext
      refine ⟨t', hget', ?_⟩
      rwa [List.count_cons_of_ne (Ne.symm hne)]

theorem result?_of_stepsLeft {path : String} {t : Task} (h : g.stepsLeft w path t = 0) : t.result?.isSome := by
  cases t with
  | done r => rfl
  | waiting | asking _ _ | listing _ _ _ _ | searching _ _ _ _ _ | answering _ _ _ _ | writing _ _ _ => cases h

/-- **Tasks that get enough turns end**, in whatever order they get them. -/
theorem run_finishes (g : Generator) (hw : s₀.workspace.Sound) (hapart : Generator.Apart s₀ files) :
    ∃ n, ∀ schedule : List Nat, (∀ i < files.length, n ≤ schedule.count i) →
      ((start files s₀).run g schedule).Finished := by
  refine ⟨(files.map fun f => g.stepsLeft s₀.workspace f .waiting).sum, fun schedule hturns x hx => ?_⟩
  obtain ⟨path, t⟩ := x
  have hcourse := course_start (g := g) hapart
  obtain ⟨i, hget⟩ := List.mem_iff_getElem?.1 hx
  have hpath : files[i]? = some path := by
    rw [← (hcourse.run hw hapart schedule).paths, List.getElem?_map, hget]
    rfl
  have hfirst : (start files s₀).tasks[i]? = some (path, .waiting) := by
    rw [start, List.getElem?_map, hpath]
    rfl
  obtain ⟨t', hget', hsteps⟩ := hcourse.stepsLeft hw hapart schedule hfirst
  obtain rfl : t = t' := (Prod.mk.inj (Option.some.inj (hget.symm.trans hget'))).2
  have hsum : g.stepsLeft s₀.workspace path .waiting ≤
      (files.map fun f => g.stepsLeft s₀.workspace f .waiting).sum :=
    List.le_sum_of_mem (List.mem_map_of_mem (List.mem_of_getElem? hpath))
  have hcount := hturns i (List.getElem?_eq_some_iff.1 hpath).1
  have hnone : g.stepsLeft s₀.workspace path t = 0 := by omega
  exact result?_of_stepsLeft hnone

end Pool

end RouteDoc
