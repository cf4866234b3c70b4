/-
What every schedule keeps.

Type files may be handler files here, so what a task learns can depend on the
schedule; what becomes of the files as such does not. All that a step can do is
said once (`Moves`). A step turns the session at the place of its own file only
(`Moves.frame`), and it writes there only where a handler was found that is not
documented. The file of a task that waits is as it was, also for whoever has read
it (`Follows`), so a task ends with a failure exactly when its file could not be
loaded in the first place (`Course.outcome`).
-/
import RouteDoc.Proofs.Generator.Runs
import RouteDoc.Proofs.Generator.Workers

namespace RouteDoc

open Go

namespace Generator

variable (g : Generator) {w : Workspace} {files : List String} {path : String} {q : Place} {t t' : Task}
  {s s' : Session}

/-! ## One step -/

/-- All that a step of the task for the file at a path can do. -/
inductive Moves (path : String) : Task → Session → Task → Session → Prop where
  | failed {s s' : Session} {failure : Failure} (n : Note) :
      s.source (some (PathText.base path)) path = (.error failure, s') →
      Moves path .waiting s (.done ⟨path, {}, some failure, [], none⟩) (s'.note n)
  | picked {s s' : Session} {source : Source} (ns : List Note) :
      s.source (some (PathText.base path)) path = (.ok source, s') →
      Moves path .waiting s
        (.asking (pendingOf source.declarations).reverse ⟨path, countsOf source.declarations, none, [], none⟩)
        (ns.foldl Session.note s')
  | ended {s : Session} {r : FileResult} : Moves path (.asking [] r) s (.done r) s
  | known {s : Session} {h : Handler} {hs : List Handler} {r : FileResult} {type : RequestType} :
      known? s h = some type → Moves path (.asking (h :: hs) r) s (.writing (g.annotated h type) hs r) s
  | unnamed {s : Session} {h : Handler} {hs : List Handler} {r : FileResult} :
      known? s h = none → typeNameOf (DocBlock.requestName h.name) = none →
      Moves path (.asking (h :: hs) r) s (.answering h hs r []) s
  | named {s : Session} {h : Handler} {hs : List Handler} {r : FileResult} {name : String} :
      known? s h = none → typeNameOf (DocBlock.requestName h.name) = some name →
      Moves path (.asking (h :: hs) r) s (.listing h hs r name) s
  | listed {s : Session} {h : Handler} {hs : List Handler} {r : FileResult} {name : String} :
      Moves path (.listing h hs r name) s
        (.searching h hs r name (typeFiles s.workspace g.settings.typesPaths)) s
  | exhausted {s : Session} {h : Handler} {hs : List Handler} {r : FileResult} {name : String} (n : Note) :
      Moves path (.searching h hs r name []) s (.answering h hs r []) (s.note n)
  | skipped {s s' : Session} {h : Handler} {hs : List Handler} {r : FileResult} {name p : String}
      {paths : List String} {failure : Failure} (n : Note) :
      s.source (some (PathText.base path)) p = (.error failure, s') →
      Moves path (.searching h hs r name (p :: paths)) s (.searching h hs r name paths) (s'.note n)
  | missed {s s' : Session} {h : Handler} {hs : List Handler} {r : FileResult} {name p : String}
      {paths : List String} {source : Source} :
      s.source (some (PathText.base path)) p = (.ok source, s') → RequestType.inTypes? name source.types = none →
      Moves path (.searching h hs r name (p :: paths)) s (.searching h hs r name paths) s'
  | found {s s' : Session} {h : Handler} {hs : List Handler} {r : FileResult} {name p : String}
      {paths : List String} {source : Source} {type : RequestType} :
      s.source (some (PathText.base path)) p = (.ok source, s') →
      RequestType.inTypes? name source.types = some type →
      Moves path (.searching h hs r name (p :: paths)) s (.answering h hs r type) s'
  | overtaken {s : Session} {h : Handler} {hs : List Handler} {r : FileResult} {type type' : RequestType} :
      known? s h = some type' → Moves path (.answering h hs r type) s (.writing (g.annotated h type') hs r) s
  | answered {s : Session} {h : Handler} {hs : List Handler} {r : FileResult} {type : RequestType} :
      known? s h = none →
      Moves path (.answering h hs r type) s (.writing (g.annotated h type) hs r)
        { s with requestTypes := s.requestTypes ++ [(DocBlock.requestName h.name, type)] }
  | wrote {s s' : Session} {a : Annotated} {hs : List Handler} {r r' : FileResult} :
      g.writeBlock path (some (PathText.base path)) a r s = (r', s') → r'.raised = none →
      Moves path (.writing a hs r) s (.asking hs r') s'
  | broke {s s' : Session} {a : Annotated} {hs : List Handler} {r r' : FileResult} :
      g.writeBlock path (some (PathText.base path)) a r s = (r', s') → r'.raised.isSome = true →
      Moves path (.writing a hs r) s (.done r') s'
  | rests {s : Session} {r : FileResult} : Moves path (.done r) s (.done r) s

theorem step_moves (path : String) (t : Task) (s : Session) :
    g.Moves path t s (g.step path t s).1 (g.step path t s).2 := by
  cases t with
  | waiting =>
    cases hsource : s.source (some (PathText.base path)) path with
    | mk found s' =>
      cases found with
      | error failure =>
        simp only [step, collect, hsource]
        exact .failed _ hsource
      | ok source =>
        simp only [step, collect, hsource]
        exact .picked _ hsource
  | asking hs r =>
    cases hs with
    | nil => exact .ended
    | cons h hs =>
      cases hknown : known? s h with
      | some type =>
        simp only [step, hknown]
        exact .known hknown
      | none =>
        cases hname : typeNameOf (DocBlock.requestName h.name) with
        | none =>
          simp only [step, hknown, hname]
          exact .unnamed hknown hname
        | some name =>
          simp only [step, hknown, hname]
          exact .named hknown hname
  | listing h hs r name => exact .listed
  | searching h hs r name paths =>
    cases paths with
    | nil => exact .exhausted _
    | cons p paths =>
      cases hsource : s.source (some (PathText.base path)) p with
      | mk found s' =>
        cases found with
        | error failure =>
          simp only [step, hsource]
          exact .skipped _ hsource
        | ok source =>
          cases htype : RequestType.inTypes? name source.types with
          | none =>
            simp only [step, hsource, htype]
            exact .missed hsource htype
          | some type =>
            simp only [step, hsource, htype]
            exact .found hsource htype
  | answering h hs r type =>
    cases hknown : known? s h with
    | some type' =>
      simp only [step, hknown]
      exact .overtaken hknown
    | none =>
      simp only [step, hknown]
      exact .answered hknown
  | writing a hs r =>
    rw [step_writing]
    dsimp only
    cases hraised : (g.writeBlock path (some (PathText.base path)) a r s).1.raised with
    | none => exact .wrote rfl hraised
    | some failure => exact .broke rfl (by rw [hraised]; rfl)
  | done r => exact .rests

variable {g}

theorem source_turns {file : Option String} {p : String} {found : Except Failure Source}
    (h : s.source file p = (found, s')) : s.Turns q s' ∧ s'.workspace = s.workspace := by
  have hturns : s.Turns q (s.source file p).2 := .source file p .refl
  have hworkspace := Session.source_workspace file p s
  rw [h] at hturns hworkspace
  exact ⟨hturns, hworkspace⟩

namespace Moves

/-- A step reads, notes and writes at the place of its file, or it gives an answer. -/
theorem turns (h : g.Moves path t s t' s') (hq : s.workspace.locate path = .ok q) :
    s.Turns q s' ∨ ∃ answers, s' = { s with requestTypes := answers } := by
  cases h with
  | failed n hsource => exact .inl ((source_turns hsource).1.note n)
  | picked ns hsource => exact .inl ((source_turns hsource).1.notes ns)
  | skipped n hsource => exact .inl ((source_turns hsource).1.note n)
  | missed hsource _ => exact .inl (source_turns hsource).1
  | found hsource _ => exact .inl (source_turns hsource).1
  | exhausted n => exact .inl (.note n .refl)
  | @wrote _ _ a _ r _ hwritten | @broke _ _ a _ r _ hwritten =>
    have hturns := g.writeBlock_turns hq (some (PathText.base path)) a r
    rw [hwritten] at hturns
    exact .inl hturns
  | answered _ => exact .inr ⟨_, rfl⟩
  | ended | known _ | unnamed _ _ | named _ _ | listed | overtaken _ | rests => exact .inl .refl

/-- What a step leaves to the files at other places. -/
theorem frame (h : g.Moves path t s t' s') (hw : s.workspace.Sound) (hq : s.workspace.locate path = .ok q) :
    s.workspace.Alike s'.workspace ∧ (∀ p, p ≠ q → s'.workspace.entryAt p = s.workspace.entryAt p) ∧
      ∀ path', s.workspace.locate (s.keyOf path') ≠ .ok q → s.Current path' → s'.Current path' := by
  rcases h.turns hq with hturns | ⟨answers, rfl⟩
  · exact ⟨hturns.alike hw, fun p hp => hturns.entryAt hp, fun _ hne hcurrent => hturns.current hw hcurrent hne⟩
  · exact ⟨.refl _, fun _ _ => rfl, fun _ _ hcurrent => hcurrent⟩

end Moves

variable (g)

/-- What writing a block says about the file as such. -/
theorem writeBlock_result (path : String) (file : Option String) (a : Annotated) (r : FileResult) (s : Session) :
    (g.writeBlock path file a r s).1.path = r.path ∧ (g.writeBlock path file a r s).1.failure = r.failure := by
  unfold writeBlock
  dsimp only
  split
  · exact ⟨rfl, rfl⟩
  · split
    · split <;> exact ⟨rfl, rfl⟩
    · exact ⟨rfl, rfl⟩

/-- Writing a block reads nothing and answers nothing. -/
theorem writeBlock_memory (path : String) (file : Option String) (a : Annotated) (r : FileResult) (s : Session) :
    (g.writeBlock path file a r s).2.sources = s.sources ∧
      (g.writeBlock path file a r s).2.requestTypes = s.requestTypes := by
  unfold writeBlock
  dsimp only
  split
  · exact ⟨rfl, rfl⟩
  · split
    · split <;> exact ⟨rfl, rfl⟩
    · split <;> exact ⟨rfl, rfl⟩

theorem writeBlock_dry (hdry : g.settings.dryRun = true) (file : Option String) (a : Annotated) (r : FileResult)
    (s : Session) : (g.writeBlock path file a r s).1.raised = r.raised ∧
      (g.writeBlock path file a r s).2.workspace = s.workspace := by
  unfold writeBlock
  dsimp only
  rw [if_pos hdry]
  exact ⟨rfl, rfl⟩

/-! ## What a task follows -/

/-- A file that could be loaded, with some of the handlers in it that are not documented. -/
def Offers (w : Workspace) (path : String) (hs : List Handler) : Prop :=
  ∃ source, Source.load w path = .ok source ∧ hs ⊆ pendingOf source.declarations

/-- What is said about a file: that it failed exactly when it cannot be loaded, and then nothing was broken
off. -/
structure Reported (w : Workspace) (f : String) (r : FileResult) : Prop where
  path : r.path = f
  failure : r.failure.isSome = true ↔ ∃ failure, Source.load w f = .error failure
  raised : r.failure.isSome = true → r.raised = none

/-- A file that cannot be loaded is said to have failed. -/
theorem Reported.not_ok {f : String} {r : FileResult} (h : Reported w f r) {failure : Failure}
    (hload : Source.load w f = .error failure) : r.ok = false := by
  have hsome := h.failure.2 ⟨failure, hload⟩
  rwa [FileResult.ok, Option.isNone_eq_false_iff]

/-- A task follows its file as it was in a tree: it waits for it, or has found handlers in it. -/
def Follows (w : Workspace) (path : String) (s : Session) : Task → Prop
  | .waiting => s.Current path ∧ ∀ q, w.locate path = .ok q → s.workspace.entryAt q = w.entryAt q
  | .asking hs r => r.path = path ∧ r.failure = none ∧ Offers w path hs
  | .listing h hs r _ | .searching h hs r _ _ | .answering h hs r _ =>
    r.path = path ∧ r.failure = none ∧ Offers w path (h :: hs)
  | .writing a hs r => r.path = path ∧ r.failure = none ∧ Offers w path (a.handler :: hs)
  | .done r => Reported w path r

/-- The files that a run may change: handler files that can be loaded, with a handler in them that is
not documented. -/
def MayChange (w : Workspace) (files : List String) (p : Place) : Prop :=
  g.settings.dryRun = false ∧ ∃ f ∈ files, w.locate f = .ok p ∧
    ∃ source, Source.load w f = .ok source ∧ pendingOf source.declarations ≠ []

theorem Offers.tail {h : Handler} {hs : List Handler} (ho : Offers w path (h :: hs)) : Offers w path hs := by
  obtain ⟨source, hload, hsub⟩ := ho
  exact ⟨source, hload, fun x hx => hsub (List.mem_cons_of_mem h hx)⟩

theorem Offers.reported {hs : List Handler} {r : FileResult} (ho : Offers w path hs) (hpath : r.path = path)
    (hfailure : r.failure = none) : Reported w path r := by
  obtain ⟨source, hload, -⟩ := ho
  refine ⟨hpath, ?_, ?_⟩
  · rw [hfailure, hload]
    simp
  · rw [hfailure]
    simp

variable {g}

theorem Offers.some_pending {h : Handler} {hs : List Handler} (ho : Offers w path (h :: hs)) :
    ∃ source, Source.load w path = .ok source ∧ pendingOf source.declarations ≠ [] := by
  obtain ⟨source, hload, hsub⟩ := ho
  exact ⟨source, hload, List.ne_nil_of_mem (hsub List.mem_cons_self)⟩

/-- A task that waits will read what was there at first. -/
theorem Follows.source (hf : Follows w path s .waiting) (hw : w.Sound) (halike : w.Alike s.workspace)
    {bytes : List UInt8} (hq : w.locate path = .ok q) (hbytes : w.entryAt q = some (.file bytes))
    (file : Option String) :
    (∃ failure failure', (s.source file path).1 = .error failure ∧ Source.load w path = .error failure') ∨
      ∃ source source', (s.source file path).1 = .ok source ∧ Source.load w path = .ok source' ∧
        source.declarations = source'.declarations := by
  have hq' : s.workspace.locate path = .ok q := halike.locate path ▸ hq
  rw [Session.source_eq_load hf.1, load_key (halike.sound hw) hq' ((hf.2 q hq).trans hbytes), load_found hq hbytes]
  cases nodes? bytes with
  | none => exact .inl ⟨_, _, rfl, rfl⟩
  | some nodes => exact .inr ⟨_, _, rfl, rfl, rfl⟩

/-- **One step** of a task follows its file. -/
theorem Moves.follows (h : g.Moves path t s t' s') (hw : w.Sound) (halike : w.Alike s.workspace)
    {bytes : List UInt8} (hq : w.locate path = .ok q) (hbytes : w.entryAt q = some (.file bytes))
    (hf : Follows w path s t) : Follows w path s' t' := by
  cases h with
  | failed n hs =>
    have hsource := hf.source hw halike hq hbytes (some (PathText.base path))
    rw [hs] at hsource
    obtain ⟨_, failure', -, hload⟩ | ⟨_, _, hok, -⟩ := hsource
    · exact ⟨rfl, ⟨fun _ => ⟨failure', hload⟩, fun _ => rfl⟩, fun _ => rfl⟩
    · cases hok
  | picked ns hs =>
    have hsource := hf.source hw halike hq hbytes (some (PathText.base path))
    rw [hs] at hsource
    obtain ⟨_, _, herror, -⟩ | ⟨source, source', hok, hload, hsame⟩ := hsource
    · cases herror
    · obtain rfl := Except.ok.inj hok
      refine ⟨rfl, rfl, source', hload, fun x hx => ?_⟩
      rw [← hsame]
      exact List.mem_reverse.1 hx
  | ended => exact hf.2.2.reported hf.1 hf.2.1
  | known _ | unnamed _ _ | named _ _ | listed | exhausted _ | skipped _ _ | missed _ _ | found _ _ | overtaken _
  | answered _ | rests => exact hf
  | @wrote _ _ a _ r _ hwritten =>
    have hresult := g.writeBlock_result path (some (PathText.base path)) a r s
    rw [hwritten] at hresult
    exact ⟨hresult.1.trans hf.1, hresult.2.trans hf.2.1, hf.2.2.tail⟩
  | @broke _ _ a _ r _ hwritten =>
    have hresult := g.writeBlock_result path (some (PathText.base path)) a r s
    rw [hwritten] at hresult
    exact hf.2.2.reported (hresult.1.trans hf.1) (hresult.2.trans hf.2.1)

/-- The steps of other tasks do not matter to a task. -/
theorem Follows.frame (h : Follows w path s t) (hcurrent : s.Current path → s'.Current path)
    (he : ∀ q, w.locate path = .ok q → s'.workspace.entryAt q = s.workspace.entryAt q) : Follows w path s' t := by
  cases t with
  | waiting => exact ⟨hcurrent h.1, fun q hq => (he q hq).trans (h.2 q hq)⟩
  | asking _ _ | listing _ _ _ _ | searching _ _ _ _ _ | answering _ _ _ _ | writing _ _ _ | done _ => exact h

/-- A step that changes a file writes a block, for a handler that was found in the file. -/
theorem Moves.mayChange (h : g.Moves path t s t' s') (hf : Follows w path s t) (hpath : path ∈ files)
    (hq : w.locate path = .ok q) (hchange : s'.workspace ≠ s.workspace) : g.MayChange w files q := by
  cases h with
  | failed n hs => exact absurd (source_turns (q := q) hs).2 hchange
  | picked ns hs =>
    exact absurd ((Session.foldl_note_workspace ns _).trans (source_turns (q := q) hs).2) hchange
  | skipped n hs => exact absurd (source_turns (q := q) hs).2 hchange
  | missed hs _ => exact absurd (source_turns (q := q) hs).2 hchange
  | found hs _ => exact absurd (source_turns (q := q) hs).2 hchange
  | ended | known _ | unnamed _ _ | named _ _ | listed | exhausted _ | overtaken _ | answered _ | rests =>
    exact absurd rfl hchange
  | @wrote _ _ a _ r _ hwritten | @broke _ _ a _ r _ hwritten =>
    refine ⟨?_, path, hpath, hq, hf.2.2.some_pending⟩
    rw [Bool.eq_false_iff]
    intro hdry
    have hsame : (g.writeBlock path (some (PathText.base path)) a r s).2.workspace = s.workspace :=
      (g.writeBlock_dry hdry _ a r s).2
    rw [hwritten] at hsame
    exact hchange hsame

end Generator

/-! ## Every schedule -/

namespace Pool

variable {g : Generator} {w : Workspace} {s₀ : Session} {files : List String} {p : Pool}

theorem paths_step (g : Generator) (p : Pool) (i : Nat) : (p.step g i).tasks.map Prod.fst = p.tasks.map Prod.fst := by
  unfold Pool.step
  cases hget : p.tasks[i]? with
  | none => rfl
  | some x =>
    have hfst : (p.tasks.map Prod.fst)[i]? = some x.1 := by rw [List.getElem?_map, hget]; rfl
    obtain ⟨hlt, hfst⟩ := List.getElem?_eq_some_iff.1 hfst
    dsimp only
    rw [List.map_set, ← hfst, List.set_getElem_self]

/-- A step leaves the other tasks as they are. -/
theorem getElem?_step (g : Generator) (p : Pool) (i j : Nat) :
    (p.step g j).tasks[i]? =
      if i = j then p.tasks[i]?.map fun x => (x.1, (g.step x.1 x.2 p.session).1) else p.tasks[i]? := by
  unfold Pool.step
  by_cases hij : i = j
  · subst hij
    cases hget : p.tasks[i]? with
    | none => simp [hget]
    | some x =>
      obtain ⟨hlt, -⟩ := List.getElem?_eq_some_iff.1 hget
      simp [hlt]
  · cases hget : p.tasks[j]? with
    | none => simp [hij]
    | some x => simp [hij, List.getElem?_set_ne (Ne.symm hij)]

/-- The other tasks have other files. -/
theorem mem_set_cases (hdistinct : files.Pairwise fun f f' => w.locate f ≠ w.locate f')
    (hpaths : p.tasks.map Prod.fst = files) {i : Nat} {path : String} {t t' : Task}
    (hget : p.tasks[i]? = some (path, t)) {x : String × Task} (hx : x ∈ p.tasks.set i (path, t')) :
    x = (path, t') ∨ x ∈ p.tasks ∧ w.locate x.1 ≠ w.locate path := by
  obtain ⟨j, hj⟩ := List.mem_iff_getElem?.1 hx
  rw [List.getElem?_set] at hj
  split at hj
  · split at hj
    · exact .inl (Option.some.inj hj).symm
    · cases hj
  · rename_i hne
    rw [← hpaths, List.pairwise_map, List.pairwise_iff_getElem] at hdistinct
    obtain ⟨hi', hpath⟩ := List.getElem?_eq_some_iff.1 hget
    obtain ⟨hj', hxj⟩ := List.getElem?_eq_some_iff.1 hj
    refine .inr ⟨List.mem_of_getElem? hj, ?_⟩
    rcases Nat.lt_or_gt_of_ne hne with hlt | hlt
    · have hapart := hdistinct i j hi' hj' hlt
      rw [hpath, hxj] at hapart
      exact hapart.symm
    · have hapart := hdistinct j i hj' hi' hlt
      rwa [hpath, hxj] at hapart

/-- How far a pool has come with files that were there when it began: each task follows its file, and
no other file has changed. -/
structure Course (g : Generator) (w : Workspace) (files : List String) (p : Pool) : Prop where
  paths : p.tasks.map Prod.fst = files
  alike : w.Alike p.session.workspace
  follows : ∀ x ∈ p.tasks, Generator.Follows w x.1 p.session x.2
  changes : ∀ q, p.session.workspace.entryAt q ≠ w.entryAt q → g.MayChange w files q

theorem course_start (hapart : Generator.Apart s₀ files) : (start files s₀).Course g s₀.workspace files where
  paths := by simp [start, Function.comp_def]
  alike := .refl _
  follows x hx := by
    obtain ⟨f, hf, rfl⟩ := List.mem_map.1 hx
    exact ⟨hapart.current f hf, fun _ _ => rfl⟩
  changes q hq := absurd rfl hq

theorem Course.step (hw : s₀.workspace.Sound) (hapart : Generator.Apart s₀ files)
    (h : p.Course g s₀.workspace files) (i : Nat) : (p.step g i).Course g s₀.workspace files := by
  have hpaths := (paths_step g p i).trans h.paths
  unfold Pool.step at hpaths ⊢
  cases hget : p.tasks[i]? with
  | none => exact h
  | some x =>
    obtain ⟨path, t⟩ := x
    rw [hget] at hpaths
    have hmem := List.mem_of_getElem? hget
    have hpath : path ∈ files := h.paths ▸ List.mem_map_of_mem hmem
    obtain ⟨q, bytes, hq, hbytes⟩ := hapart.found path hpath
    have hfollows := h.follows _ hmem
    have hmoves := g.step_moves path t p.session
    have hq' : p.session.workspace.locate path = .ok q := h.alike.locate path ▸ hq
    have hw' := h.alike.sound hw
    obtain ⟨halike, hframe, hcurrent⟩ := hmoves.frame hw' hq'
    refine ⟨hpaths, h.alike.trans halike, fun x hx => ?_, fun q' hq' => ?_⟩
    · rcases mem_set_cases hapart.distinct h.paths hget hx with rfl | ⟨hx, hne⟩
      · exact hmoves.follows hw h.alike hq hbytes hfollows
      · obtain ⟨q', -, hqx, -⟩ := hapart.found x.1 (h.paths ▸ List.mem_map_of_mem hx)
        have hapart' : q' ≠ q := by
          rintro rfl
          exact hne (hqx.trans hq.symm)
        have hkey : p.session.workspace.locate (p.session.keyOf x.1) = .ok q' :=
          Workspace.locate_absolute hw' (h.alike.locate x.1 ▸ hqx)
        refine (h.follows x hx).frame (hcurrent x.1 ?_) fun q'' hq'' => hframe q'' ?_
        · rw [hkey]
          exact fun heq => hapart' (Except.ok.inj heq)
        · rwa [← Except.ok.inj (hqx.symm.trans hq'')]
    · by_cases hsame : (g.step path t p.session).2.workspace.entryAt q' = p.session.workspace.entryAt q'
      · exact h.changes q' (hsame ▸ hq')
      · -- Only the file of the task can have changed, and then the task has written to it.
        obtain rfl : q' = q := by
          by_contra hne
          exact hsame (hframe q' hne)
        refine hmoves.mayChange hfollows hpath hq fun heq => hsame ?_
        rw [heq]

/-- **Every schedule** keeps to the course. -/
theorem Course.run (hw : s₀.workspace.Sound) (hapart : Generator.Apart s₀ files)
    (h : p.Course g s₀.workspace files) (schedule : List Nat) : (p.run g schedule).Course g s₀.workspace files := by
  induction schedule generalizing p with
  | nil => exact h
  | cons i schedule ih => exact ih (h.step hw hapart i)

end Pool

/-! ## What becomes of the files -/

/-- What handling files comes to: each is reported on in turn, no file is created or deleted, and only
those change that may change. -/
structure Generator.Outcome (g : Generator) (w : Workspace) (files : List String) (results : List FileResult)
    (w' : Workspace) : Prop where
  reports : List.Forall₂ (Generator.Reported w) files results
  alike : w.Alike w'
  changes : ∀ q, w'.entryAt q ≠ w.entryAt q → g.MayChange w files q

namespace Pool

variable {g : Generator} {w : Workspace} {files : List String} {p : Pool}

/-- What holds of every task that is done holds of the results, file by file. -/
theorem forall₂_results {R : String → FileResult → Prop} (hpaths : p.tasks.map Prod.fst = files)
    (h : ∀ x ∈ p.tasks, ∃ r, x.2.result? = some r ∧ R x.1 r) : List.Forall₂ R files p.results := by
  rw [← hpaths]
  unfold results
  revert h
  generalize p.tasks = tasks
  intro h
  induction tasks with
  | nil => exact .nil
  | cons x tasks ih =>
    obtain ⟨⟨r, hresult, hr⟩, hrest⟩ := List.forall_mem_cons.1 h
    rw [List.map_cons, List.filterMap_cons, hresult]
    exact .cons hr (ih hrest)

theorem Course.reported (h : p.Course g w files) {x : String × Task} (hx : x ∈ p.tasks) {r : FileResult}
    (hr : x.2.result? = some r) : Generator.Reported w x.1 r := by
  have hfollows := h.follows x hx
  obtain ⟨path, t⟩ := x
  cases t with
  | done r' =>
    obtain rfl := Option.some.inj hr
    exact hfollows
  | waiting | asking _ _ | listing _ _ _ _ | searching _ _ _ _ _ | answering _ _ _ _ | writing _ _ _ => cases hr

theorem Course.outcome (h : p.Course g w files) (hdone : p.Finished) :
    g.Outcome w files p.results p.session.workspace := by
  refine ⟨forall₂_results h.paths fun x hx => ?_, h.alike, h.changes⟩
  obtain ⟨r, hr⟩ := Option.isSome_iff_exists.1 (hdone x hx)
  exact ⟨r, hr, h.reported hx hr⟩

end Pool

end RouteDoc
