/-
Files that cannot be loaded do not matter to the others.

A session goes on beside one over the tree without some files that cannot be
parsed (`Session.Beside`): both keep the same sources and give the same answers,
since a type file that cannot be loaded is passed over just as one that is not
there. A step of a task is a step of the same task over there, or none where a
file is passed over that is gone (`Moves.beside`); the task of a file that is
gone comes to nothing (`Moves.in_vain`). So every schedule has its counterpart
(`Pool.Beside.run`), and to handle one file after the other comes to the same for
the files that are left (`processFiles_beside`).
-/
import RouteDoc.Proofs.Generator.Steps
import RouteDoc.Proofs.Workspace.Absent

namespace RouteDoc

open Go

/-! ## Two sessions -/

/-- A session over a tree, and one over the same tree without files that cannot be parsed. -/
structure Session.Beside (w : Workspace) (gone : List Place) (s s₀ : Session) : Prop where
  alike : w.Alike s.workspace
  workspace : s₀.workspace = s.workspace.without gone
  sources : s₀.sources = s.sources
  answers : s₀.requestTypes = s.requestTypes
  unparsable : ∀ q ∈ gone, ∃ bytes, s.workspace.entryAt q = some (.file bytes) ∧ nodes? bytes = none
  unkept : ∀ e ∈ s.sources, w.reaches gone e.1 = false

namespace Workspace

variable {w w' : Workspace} {gone : List Place} {path : String} {q : Place}

theorem Alike.reaches (h : w.Alike w') (gone : List Place) : w.reaches gone = w'.reaches gone := by
  funext path
  unfold Workspace.reaches
  rw [h.locate]

theorem reaches_of_locate (hq : w.locate path = .ok q) : w.reaches gone path = gone.contains q := by
  unfold reaches
  rw [hq]

/-- A file that is not gone is loaded as before. -/
theorem load_kept (hgone : w.AreFiles gone) (hq : w.locate path = .ok q) (hkept : q ∉ gone) :
    Source.load (w.without gone) path = Source.load w path := by
  refine Session.load_eq (read_congr ((locate_without hgone).2 hq) hq ?_)
  rw [entryAt_without hgone, if_neg hkept]

/-- A file written where nothing is gone. -/
theorem put_without (hgone : w.AreFiles gone) {bytes : List UInt8} (hbytes : w.entryAt q = some (.file bytes))
    (hkept : q ∉ gone) (e : Entry) : (w.put q e).without gone = (w.without gone).put q e := by
  have hbytes' : (w.without gone).entryAt q = some (.file bytes) := by rw [entryAt_without hgone, if_neg hkept, hbytes]
  rw [put, put, if_pos (any_key_of_entryAt hbytes), if_pos (any_key_of_entryAt hbytes')]
  unfold without
  rw [List.filter_map]
  refine congrArg (fun es => (⟨es, w.cwd⟩ : Workspace)) (congrArg _ (List.filter_congr fun x _ => ?_))
  by_cases hx : x.1 = q
  · simp [hx]
  · simp [hx]

end Workspace

namespace Session.Beside

variable {w : Workspace} {gone : List Place} {s s' s₀ s₀' : Session} {path : String} {q : Place}

theorem areFiles (h : s.Beside w gone s₀) : s.workspace.AreFiles gone := by
  intro q hq
  obtain ⟨bytes, hbytes, -⟩ := h.unparsable q hq
  exact ⟨bytes, hbytes⟩

theorem entryAt (h : s.Beside w gone s₀) {p : Place} (hp : p ∉ gone) :
    s₀.workspace.entryAt p = s.workspace.entryAt p := by
  rw [h.workspace, Workspace.entryAt_without h.areFiles, if_neg hp]

theorem not_gone (h : s.Beside w gone s₀) {bytes : List UInt8} {nodes : List Node}
    (hbytes : s.workspace.entryAt q = some (.file bytes)) (hnodes : nodes? bytes = some nodes) : q ∉ gone := by
  intro hmem
  obtain ⟨bytes', hbytes', hnone⟩ := h.unparsable q hmem
  rw [hbytes] at hbytes'
  obtain rfl : bytes = bytes' := by simpa using hbytes'
  rw [hnodes] at hnone
  cases hnone

theorem note (h : s.Beside w gone s₀) (n : Note) : (s.note n).Beside w gone s₀ :=
  ⟨h.alike, h.workspace, h.sources, h.answers, h.unparsable, h.unkept⟩

theorem note_right (h : s.Beside w gone s₀) (n : Note) : s.Beside w gone (s₀.note n) :=
  ⟨h.alike, h.workspace, h.sources, h.answers, h.unparsable, h.unkept⟩

theorem notes (h : s.Beside w gone s₀) (ns : List Note) : (ns.foldl Session.note s).Beside w gone s₀ := by
  induction ns generalizing s with
  | nil => exact h
  | cons n ns ih => exact ih (h.note n)

theorem notes_right (h : s.Beside w gone s₀) (ns : List Note) : s.Beside w gone (ns.foldl Session.note s₀) := by
  induction ns generalizing s₀ with
  | nil => exact h
  | cons n ns ih => exact ih (h.note_right n)

theorem keyOf (h : s.Beside w gone s₀) (path : String) : s₀.keyOf path = s.keyOf path := by
  unfold Session.keyOf
  rw [h.workspace]
  rfl

theorem kept? (h : s.Beside w gone s₀) (path : String) : s₀.kept? path = s.kept? path := by
  unfold Session.kept?
  rw [h.sources, h.keyOf]

theorem locate_key (h : s.Beside w gone s₀) (hw : w.Sound) (hq : w.locate path = .ok q) :
    s.workspace.locate (s.keyOf path) = .ok q :=
  Workspace.locate_absolute (h.alike.sound hw) (h.alike.locate path ▸ hq)

/-- What can be loaded in one of the trees can be loaded in the other. -/
theorem load (h : s.Beside w gone s₀) (key : String) (found : Source) :
    Source.load s₀.workspace key = .ok found ↔ Source.load s.workspace key = .ok found := by
  have hgone := h.areFiles
  rw [h.workspace]
  constructor
  · intro hload
    obtain ⟨q, bytes, nodes, hq, hbytes, -⟩ := Generator.load_ok hload
    rw [Workspace.entryAt_without hgone] at hbytes
    split at hbytes
    · cases hbytes
    · rename_i hkept
      rwa [Workspace.load_kept hgone ((Workspace.locate_without hgone).1 hq) hkept] at hload
  · intro hload
    obtain ⟨q, bytes, nodes, hq, hbytes, hnodes⟩ := Generator.load_ok hload
    rwa [Workspace.load_kept hgone hq (h.not_gone hbytes hnodes)]

/-- A source that is read is read in both sessions, or in neither. -/
theorem source (h : s.Beside w gone s₀) (file : Option String) (path : String) :
    (∃ found s' s₀', s.source file path = (.ok found, s') ∧ s₀.source file path = (.ok found, s₀') ∧
      s'.Beside w gone s₀') ∨
    ∃ failure failure₀, s.source file path = (.error failure, s) ∧ s₀.source file path = (.error failure₀, s₀) := by
  have hkept := h.kept? path
  have hkey := h.keyOf path
  obtain ⟨found, hold, hs⟩ | ⟨failure, hnone, hload, hs⟩ | ⟨found, n, hnone, hload, hs⟩ := s.source_cases file path
  · exact .inl ⟨found, s, s₀, hs, Session.source_of_kept (hkept.trans hold) file, h⟩
  · cases hload₀ : Source.load s₀.workspace (s₀.keyOf path) with
    | error failure₀ =>
      exact .inr ⟨failure, failure₀, hs, Session.source_of_error (hkept.trans hnone) hload₀ file⟩
    | ok found =>
      rw [hkey, h.load, hload] at hload₀
      cases hload₀
  · have hload₀ : Source.load s₀.workspace (s₀.keyOf path) = .ok found := by rw [hkey, h.load, hload]
    obtain ⟨n₀, hs₀⟩ := Session.source_of_load (hkept.trans hnone) hload₀ file
    refine .inl ⟨found, _, _, hs, hs₀, h.alike, h.workspace, ?_, h.answers, h.unparsable, fun e he => ?_⟩
    · rw [Session.note, Session.note, h.sources, hkey]
    · obtain ⟨q, bytes, nodes, hq, hbytes, hnodes⟩ := Generator.load_ok hload
      rcases List.mem_append.1 he with he | he
      · exact h.unkept e he
      · rw [List.mem_singleton.1 he, h.alike.reaches, Workspace.reaches_of_locate hq]
        simpa using h.not_gone hbytes hnodes

/-- A file that is gone in the other session is read in neither. -/
theorem source_gone (h : s.Beside w gone s₀) (hw : w.Sound) (hpath : w.reaches gone path = true)
    (file : Option String) : ∃ failure, s.source file path = (.error failure, s) := by
  obtain ⟨q, hmem, hq⟩ := Workspace.reaches_iff.1 hpath
  have hkey := h.locate_key hw hq
  obtain ⟨found, hold, -⟩ | ⟨failure, -, -, hs⟩ | ⟨found, _, -, hload, -⟩ := s.source_cases file path
  · -- What is kept is kept under a path that leads elsewhere.
    unfold Session.kept? at hold
    obtain ⟨e, he, -⟩ := Option.map_eq_some_iff.1 hold
    have hunkept := h.unkept e (List.mem_of_find?_eq_some he)
    have heq : e.1 = s.keyOf path := by simpa using List.find?_some he
    rw [heq, h.alike.reaches, Workspace.reaches_of_locate hkey] at hunkept
    simp [hmem] at hunkept
  · exact ⟨failure, hs⟩
  · obtain ⟨q', bytes, nodes, hq', hbytes, hnodes⟩ := Generator.load_ok hload
    obtain rfl := Except.ok.inj (hkey.symm.trans hq')
    exact absurd hmem (h.not_gone hbytes hnodes)

/-- A file that is read is read in both sessions, and is not gone. -/
theorem source_ok (h : s.Beside w gone s₀) (hw : w.Sound) {file : Option String} {found : Source}
    (hs : s.source file path = (.ok found, s')) :
    ∃ s₀', s₀.source file path = (.ok found, s₀') ∧ w.reaches gone path = false ∧ s'.Beside w gone s₀' := by
  obtain ⟨found', s'', s₀', hok, hs₀, hbeside⟩ | ⟨_, _, herror, -⟩ := h.source file path
  · obtain ⟨hfound, rfl⟩ := Prod.mk.inj (hs.symm.trans hok)
    obtain rfl := Except.ok.inj hfound
    refine ⟨s₀', hs₀, ?_, hbeside⟩
    rw [Bool.eq_false_iff]
    intro hpath
    obtain ⟨failure, herror⟩ := h.source_gone hw hpath file
    rw [hs] at herror
    cases herror
  · rw [hs] at herror
    cases herror

/-- What is said about a file that is not gone is said in both sessions. -/
theorem source_kept (h : s.Beside w gone s₀) (hw : w.Sound) (hq : w.locate path = .ok q) (hkept : q ∉ gone)
    (file : Option String) : (s₀.source file path).1 = (s.source file path).1 := by
  have hload := Workspace.load_kept h.areFiles (h.locate_key hw hq) hkept
  rw [← h.workspace] at hload
  unfold Session.source
  rw [h.kept?, h.keyOf]
  dsimp only
  rw [hload]
  split
  · rfl
  · split <;> rfl

/-- One block, written in both sessions to a file that is not gone. -/
theorem writeBlock (h : s.Beside w gone s₀) (hw : w.Sound) (hq : w.locate path = .ok q) (hkept : q ∉ gone)
    (g : Generator) (file : Option String) (a : Annotated) (r : FileResult) :
    (g.writeBlock path file a r s₀).1 = (g.writeBlock path file a r s).1 ∧
      (g.writeBlock path file a r s).2.Beside w gone (g.writeBlock path file a r s₀).2 := by
  have hgone := h.areFiles
  have hlocate : s.workspace.locate path = .ok q := h.alike.locate path ▸ hq
  have hlocate₀ : s₀.workspace.locate path = .ok q := by
    rw [h.workspace]
    exact (Workspace.locate_without hgone).2 hlocate
  have hentry : s.workspace.entryAt q = s₀.workspace.entryAt q := (h.entryAt hkept).symm
  unfold Generator.writeBlock
  dsimp only
  split
  · exact ⟨rfl, (h.note _).note_right _⟩
  · rcases Workspace.document_congr hlocate hlocate₀ hentry a.handler.declaration a.block
      (g.refusal path a.handler.declaration) with ⟨failure, hs, hs₀⟩ | ⟨bytes, bytes', hbytes, hs, hs₀⟩
    · rw [hs, hs₀]
      dsimp only
      split
      · exact ⟨rfl, (h.note _).note_right _⟩
      · exact ⟨rfl, h⟩
    · have hwritten : ({ s with workspace := s.workspace.put q (.file bytes') } : Session).Beside w gone
          { s₀ with workspace := s₀.workspace.put q (.file bytes') } := by
        refine ⟨h.alike.trans (Workspace.alike_put (h.alike.sound hw) hbytes bytes'), ?_, h.sources, h.answers,
          fun p hp => ?_, h.unkept⟩
        · dsimp only
          rw [h.workspace, Workspace.put_without hgone hbytes hkept]
        · dsimp only
          rw [Workspace.entryAt_put_ne hbytes _ fun heq => hkept (heq ▸ hp)]
          exact h.unparsable p hp
      rw [hs, hs₀]
      dsimp only
      split
      · exact ⟨rfl, (hwritten.note _).note_right _⟩
      · exact ⟨rfl, hwritten⟩

end Session.Beside

/-! ## One step beside the other -/

/-- A task that has no more files to search which are gone. -/
def Task.without (gone : String → Bool) : Task → Task
  | .searching h hs r name paths => .searching h hs r name (paths.filter fun p => !gone p)
  | t => t

theorem Task.without_gone {gone : String → Bool} {p : String} (hp : gone p = true) (h : Handler) (hs : List Handler)
    (r : FileResult) (name : String) (paths : List String) :
    (Task.searching h hs r name (p :: paths)).without gone = (Task.searching h hs r name paths).without gone := by
  rw [without, without, List.filter_cons_of_neg (by simp [hp])]

theorem Task.without_kept {gone : String → Bool} {p : String} (hp : gone p = false) (h : Handler) (hs : List Handler)
    (r : FileResult) (name : String) (paths : List String) :
    (Task.searching h hs r name (p :: paths)).without gone =
      .searching h hs r name (p :: paths.filter fun p => !gone p) := by
  rw [without, List.filter_cons_of_pos (by simp [hp])]

theorem Task.result?_without (gone : String → Bool) (t : Task) : (t.without gone).result? = t.result? := by
  cases t <;> rfl

namespace Generator

variable {g : Generator} {w : Workspace} {gone : List Place} {s s' s₀ s₀' : Session} {path : String} {q : Place}
  {t t' : Task} {r r' : FileResult}

theorem known?_beside (h : s.Beside w gone s₀) (x : Handler) : known? s₀ x = known? s x := by
  unfold known?
  rw [h.answers]

theorem typeFiles_beside (h : s.Beside w gone s₀) (hw : w.Sound) (patterns : List String) :
    typeFiles s₀.workspace patterns = (typeFiles s.workspace patterns).filter fun p => !w.reaches gone p := by
  rw [h.workspace, Workspace.typeFiles_without (h.alike.sound hw) h.areFiles, h.alike.reaches]

/-- **A step beside a step**: the task of a file that is not gone takes the same step in the other session, or
none where it has passed over a file that is gone. -/
theorem Moves.beside (hm : g.Moves path t s t' s') (h : s.Beside w gone s₀) (hw : w.Sound)
    (hq : w.locate path = .ok q) (hkept : q ∉ gone) :
    ∃ s₀', g.Leads path (t.without (w.reaches gone)) s₀ (t'.without (w.reaches gone)) s₀' ∧ s'.Beside w gone s₀' := by
  have hsources := fun p => h.source (some (PathText.base path)) p
  cases hm with
  | failed n hs =>
    have hsame := h.source_kept hw hq hkept (some (PathText.base path))
    obtain ⟨_, _, _, hok, -⟩ | ⟨failure, failure₀, herror, hs₀⟩ := hsources path
    · rw [hs] at hok
      cases hok
    · rw [herror, hs₀] at hsame
      rw [hs] at herror
      obtain ⟨hfailure, rfl⟩ := Prod.mk.inj herror
      obtain rfl := Except.error.inj hfailure
      obtain rfl := Except.error.inj hsame
      exact ⟨_, leads_step (by simp only [Task.without, step, collect, hs₀]; rfl), (h.note n).note_right _⟩
  | picked ns hs =>
    obtain ⟨s₀', hs₀, -, hbeside⟩ := h.source_ok hw hs
    exact ⟨_, leads_step (by simp only [Task.without, step, collect, hs₀]; rfl), (hbeside.notes ns).notes_right _⟩
  | ended => exact ⟨s₀, leads_step rfl, h⟩
  | known hknown =>
    rw [← known?_beside h] at hknown
    exact ⟨s₀, leads_step (by simp only [Task.without, step, hknown]), h⟩
  | unnamed hknown hname =>
    rw [← known?_beside h] at hknown
    exact ⟨s₀, leads_step (by simp only [Task.without, step, hknown, hname]), h⟩
  | named hknown hname =>
    rw [← known?_beside h] at hknown
    exact ⟨s₀, leads_step (by simp only [Task.without, step, hknown, hname]), h⟩
  | listed => exact ⟨s₀, leads_step (by simp only [Task.without, step, typeFiles_beside h hw]), h⟩
  | exhausted n => exact ⟨_, leads_step rfl, (h.note n).note_right _⟩
  | @skipped _ _ x hs r name p paths _ n hs' =>
    obtain ⟨_, _, _, hok, -⟩ | ⟨failure, failure₀, herror, hs₀⟩ := hsources p
    · rw [hs'] at hok
      cases hok
    · obtain rfl := (Prod.mk.inj (hs'.symm.trans herror)).2
      cases hp : w.reaches gone p with
      | true =>
        rw [Task.without_gone hp]
        exact ⟨s₀, .refl, h.note n⟩
      | false =>
        rw [Task.without_kept hp]
        exact ⟨_, leads_step (by simp only [step, hs₀]; rfl), (h.note n).note_right _⟩
  | @missed _ _ x hs r name p paths source hs' htype =>
    obtain ⟨s₀', hs₀, hp, hbeside⟩ := h.source_ok hw hs'
    rw [Task.without_kept hp]
    exact ⟨s₀', leads_step (by simp only [step, hs₀, htype]; rfl), hbeside⟩
  | @found _ _ x hs r name p paths source type hs' htype =>
    obtain ⟨s₀', hs₀, hp, hbeside⟩ := h.source_ok hw hs'
    rw [Task.without_kept hp]
    exact ⟨s₀', leads_step (by simp only [step, hs₀, htype]; rfl), hbeside⟩
  | overtaken hknown =>
    rw [← known?_beside h] at hknown
    exact ⟨s₀, leads_step (by simp only [Task.without, step, hknown]), h⟩
  | answered hknown =>
    rw [← known?_beside h] at hknown
    refine ⟨_, leads_step (by simp only [Task.without, step, hknown]; rfl), ?_⟩
    exact ⟨h.alike, h.workspace, h.sources, congrArg (· ++ _) h.answers, h.unparsable, h.unkept⟩
  | @wrote _ _ a _ r _ hwritten hraised | @broke _ _ a _ r _ hwritten hraised =>
    obtain ⟨hresult, hbeside⟩ := h.writeBlock hw hq hkept g (some (PathText.base path)) a r
    rw [hwritten] at hresult hbeside
    exact ⟨_, leads_step (by simp [Task.without, step, hresult, hraised]), hbeside⟩
  | rests => exact ⟨s₀, .refl, h⟩

/-- The task of a file that is gone comes to an end, and nobody has noticed. -/
theorem Moves.in_vain (hm : g.Moves path t s t' s') (h : s.Beside w gone s₀) (hw : w.Sound)
    (hpath : w.reaches gone path = true) (hidle : t = .waiting ∨ ∃ r, t = .done r) :
    (∃ r, t' = .done r) ∧ s'.Beside w gone s₀ := by
  rcases hidle with rfl | ⟨r, rfl⟩
  · obtain ⟨failure, hsource⟩ := h.source_gone hw hpath (some (PathText.base path))
    cases hm with
    | failed n hs =>
      obtain ⟨-, rfl⟩ := Prod.mk.inj (hs.symm.trans hsource)
      exact ⟨⟨_, rfl⟩, h.note n⟩
    | picked ns hs =>
      rw [hs] at hsource
      cases hsource
  · cases hm with
    | rests => exact ⟨⟨r, rfl⟩, h⟩

/-! ## One file after the other -/

theorem Leads.beside (hl : g.Leads path t s t' s') (h : s.Beside w gone s₀) (hw : w.Sound)
    (hq : w.locate path = .ok q) (hkept : q ∉ gone) :
    ∃ s₀', g.Leads path (t.without (w.reaches gone)) s₀ (t'.without (w.reaches gone)) s₀' ∧ s'.Beside w gone s₀' := by
  induction hl with
  | refl => exact ⟨s₀, .refl, h⟩
  | @step t₁ s₁ _ ih =>
    obtain ⟨s₀', hleads, hbeside⟩ := ih
    obtain ⟨s₀'', hnext, hbeside⟩ := (g.step_moves path t₁ s₁).beside hbeside hw hq hkept
    exact ⟨s₀'', hleads.trans hnext, hbeside⟩

variable (g)

/-- A file that is not gone is handled in the same way. -/
theorem processFile_kept (h : s.Beside w gone s₀) (hw : w.Sound) (hq : w.locate path = .ok q) (hkept : q ∉ gone) :
    (g.processFile path s₀).1 = (g.processFile path s).1 ∧
      (g.processFile path s).2.Beside w gone (g.processFile path s₀).2 := by
  obtain ⟨s₀', hleads, hbeside⟩ := (g.leads_processFile path s).beside h hw hq hkept
  obtain ⟨hresult, hsession⟩ := (g.leads_processFile path s₀).unique hleads
  rw [← hsession] at hbeside
  exact ⟨hresult, hbeside⟩

/-- A file that is gone is read in vain. -/
theorem processFile_gone (h : s.Beside w gone s₀) (hw : w.Sound) (hpath : w.reaches gone path = true) :
    (g.processFile path s).2.Beside w gone s₀ := by
  obtain ⟨failure, hsource⟩ := h.source_gone hw hpath (some (PathText.base path))
  simp only [processFile, collect, hsource]
  exact h.note _

variable {g}

/-- Where the files that cannot be loaded are gone, a failure is said about them only. -/
theorem Reported.ok_eq (h : Reported w path r)
    (hgone : w.reaches gone path = true ↔ ∃ failure, Source.load w path = .error failure) :
    r.ok = !w.reaches gone path := by
  have hiff := h.failure.trans hgone.symm
  rw [← Bool.eq_iff_iff] at hiff
  rw [← hiff, FileResult.ok, Option.not_isSome]

variable (g)

/-- **The other files**, one after the other: those that are gone are the ones that have failed, and the
others have the results they would have without them. -/
theorem processFiles_beside {files : List String} (h : s.Beside w gone s₀) (hw : w.Sound)
    (hfound : ∀ f ∈ files, ∃ q bytes, w.locate f = .ok q ∧ w.entryAt q = some (.file bytes))
    (hgone : ∀ f ∈ files, (w.reaches gone f = true ↔ ∃ failure, Source.load w f = .error failure))
    (hreports : List.Forall₂ (Reported w) files (g.processFiles files s).1) :
    (g.processFiles (files.filter fun f => !w.reaches gone f) s₀).1 =
        (g.processFiles files s).1.filter FileResult.ok ∧
      (g.processFiles files s).2.Beside w gone
        (g.processFiles (files.filter fun f => !w.reaches gone f) s₀).2 := by
  induction files generalizing s s₀ with
  | nil => exact ⟨rfl, h⟩
  | cons f files ih =>
    obtain ⟨⟨q, _, hq, -⟩, hfound⟩ := List.forall_mem_cons.1 hfound
    have hcons : g.processFiles (f :: files) s =
      ((g.processFile f s).1 :: (g.processFiles files (g.processFile f s).2).1,
        (g.processFiles files (g.processFile f s).2).2) := rfl
    rw [hcons] at hreports ⊢
    obtain ⟨hreport, hreports⟩ := List.forall₂_cons.1 hreports
    obtain ⟨hgonef, hgone⟩ := List.forall_mem_cons.1 hgone
    have hok := hreport.ok_eq hgonef
    cases hf : w.reaches gone f with
    | true =>
      rw [hf] at hok
      rw [List.filter_cons_of_neg (by simp [hf]), List.filter_cons_of_neg (by simp [hok])]
      exact ih (g.processFile_gone h hw hf) hfound hgone hreports
    | false =>
      rw [hf] at hok
      have hkept : q ∉ gone := by simpa [Workspace.reaches_of_locate hq] using hf
      obtain ⟨hresult, hbeside⟩ := g.processFile_kept h hw hq hkept
      obtain ⟨hresults, hrest⟩ := ih hbeside hfound hgone hreports
      rw [List.filter_cons_of_pos (by simp [hf]), List.filter_cons_of_pos (by simp [hok])]
      refine ⟨?_, hrest⟩
      rw [← hresults, ← hresult]
      rfl

end Generator

/-! ## Every schedule -/

namespace Pool

variable {g : Generator} {w : Workspace} {gone : List Place} {p p₀ : Pool}

/-- A pool, and one that has no tasks for files that are gone. -/
structure Beside (w : Workspace) (gone : List Place) (p p₀ : Pool) : Prop where
  tasks : p₀.tasks = (p.tasks.filter fun x => !w.reaches gone x.1).map fun x => (x.1, x.2.without (w.reaches gone))
  session : p.session.Beside w gone p₀.session
  located : ∀ x ∈ p.tasks, ∃ q, w.locate x.1 = .ok q
  idle : ∀ x ∈ p.tasks, w.reaches gone x.1 = true → x.2 = .waiting ∨ ∃ r, x.2 = .done r

theorem Beside.start {s s₀ : Session} (h : s.Beside w gone s₀) {files : List String}
    (hfound : ∀ f ∈ files, ∃ q bytes, w.locate f = .ok q ∧ w.entryAt q = some (.file bytes)) :
    (start files s).Beside w gone (start (files.filter fun f => !w.reaches gone f) s₀) := by
  refine ⟨?_, h, fun x hx => ?_, fun x hx _ => ?_⟩
  · unfold Pool.start
    rw [List.filter_map, List.map_map]
    rfl
  · obtain ⟨f, hf, rfl⟩ := List.mem_map.1 hx
    obtain ⟨q, _, hq, -⟩ := hfound f hf
    exact ⟨q, hq⟩
  · obtain ⟨f, -, rfl⟩ := List.mem_map.1 hx
    exact .inl rfl

theorem Beside.step (hw : w.Sound) (h : p.Beside w gone p₀) (i : Nat) :
    ∃ schedule, (p.step g i).Beside w gone (p₀.run g schedule) := by
  unfold Pool.step
  cases hget : p.tasks[i]? with
  | none => exact ⟨[], h⟩
  | some x =>
    obtain ⟨path, t⟩ := x
    have hmem := List.mem_of_getElem? hget
    obtain ⟨q, hq⟩ := h.located _ hmem
    obtain ⟨hi, hpath⟩ := List.getElem?_eq_some_iff.1 hget
    have hset : ∀ x, p.tasks.set i x = p.tasks.take i ++ x :: p.tasks.drop (i + 1) := by
      intro x
      rw [List.set_eq_take_append_cons_drop, if_pos hi]
    have hsplit : p.tasks = p.tasks.take i ++ (path, t) :: p.tasks.drop (i + 1) := by
      rw [← hset, ← hpath, List.set_getElem_self]
    have hmoves := g.step_moves path t p.session
    have htasks := h.tasks
    rw [hsplit, List.filter_append, List.map_append] at htasks
    have hlocated : ∀ x ∈ p.tasks.set i (path, (g.step path t p.session).1), ∃ q, w.locate x.1 = .ok q := by
      intro x hx
      rcases List.mem_or_eq_of_mem_set hx with hx | rfl
      · exact h.located x hx
      · exact ⟨q, hq⟩
    dsimp only
    cases hgone : w.reaches gone path with
    | true =>
      obtain ⟨hdone, hbeside⟩ := hmoves.in_vain h.session hw hgone (h.idle _ hmem hgone)
      refine ⟨[], ?_, hbeside, hlocated, fun x hx hx' => ?_⟩
      · rw [List.filter_cons_of_neg (by simp [hgone])] at htasks
        rw [hset, List.filter_append, List.filter_cons_of_neg (by simp [hgone]), List.map_append]
        exact htasks
      · rcases List.mem_or_eq_of_mem_set hx with hx | rfl
        · exact h.idle x hx hx'
        · exact .inr hdone
    | false =>
      have hkept : q ∉ gone := by simpa [Workspace.reaches_of_locate hq] using hgone
      obtain ⟨s₀', hleads, hbeside⟩ := hmoves.beside h.session hw hq hkept
      rw [List.filter_cons_of_pos (by simp [hgone]), List.map_cons] at htasks
      obtain ⟨schedule, hrun⟩ := run_alone hleads _ _
      rw [← htasks] at hrun
      refine ⟨schedule, ?_⟩
      have hpool : p₀.run g schedule = _ := hrun
      rw [hpool]
      refine ⟨?_, hbeside, hlocated, fun x hx hx' => ?_⟩
      · rw [hset, List.filter_append, List.filter_cons_of_pos (by simp [hgone]), List.map_append, List.map_cons]
      · rcases List.mem_or_eq_of_mem_set hx with hx | rfl
        · exact h.idle x hx hx'
        · rw [hgone] at hx'
          cases hx'

/-- **Every schedule has its counterpart** without the files that are gone. -/
theorem Beside.run (hw : w.Sound) (h : p.Beside w gone p₀) (schedule : List Nat) :
    ∃ schedule₀, (p.run g schedule).Beside w gone (p₀.run g schedule₀) := by
  induction schedule generalizing p p₀ with
  | nil => exact ⟨[], h⟩
  | cons i schedule ih =>
    obtain ⟨first, hfirst⟩ := h.step (g := g) hw i
    obtain ⟨rest, hrest⟩ := ih hfirst
    refine ⟨first ++ rest, ?_⟩
    rw [run_append]
    exact hrest

theorem Beside.finished (h : p.Beside w gone p₀) (hdone : p.Finished) : p₀.Finished := by
  intro x hx
  rw [h.tasks] at hx
  obtain ⟨y, hy, rfl⟩ := List.mem_map.1 hx
  rw [Task.result?_without]
  exact hdone y (List.mem_of_mem_filter hy)

/-- The results without the files that are gone, where these are the ones that cannot be loaded. -/
theorem Beside.results {files : List String} (h : p.Beside w gone p₀) (hcourse : p.Course g w files)
    (hgone : ∀ f ∈ files, (w.reaches gone f = true ↔ ∃ failure, Source.load w f = .error failure)) :
    p₀.results = p.results.filter FileResult.ok := by
  unfold Pool.results
  rw [h.tasks, List.filterMap_map, List.filterMap_filter, List.filter_filterMap]
  refine List.filterMap_congr fun x hx => ?_
  obtain ⟨path, t⟩ := x
  have hfollows := hcourse.follows _ hx
  rw [Function.comp_apply, Task.result?_without]
  cases t with
  | done r =>
    have hreported : Generator.Reported w path r := hfollows
    have hok := hreported.ok_eq (hgone path (hcourse.paths ▸ List.mem_map_of_mem hx))
    simp only [Task.result?, Option.filter_some, hok]
  | waiting | asking _ _ | listing _ _ _ _ | searching _ _ _ _ _ | answering _ _ _ _ | writing _ _ _ =>
    simp [Task.result?]

end Pool

end RouteDoc
