/-
Every schedule.

Where no type file is a handler file (`Independent`), whatever the tasks of a pool
learn is what the tree said at the start (`Faithful`): an answer that two tasks look
for at once is the same answer, and a source is only kept as it was before its
file was written. So what a task still has to do (`outcome`) is not changed by a
step of another task, nor by its own (`step_keeps`), and every schedule that lets
all tasks end gives the results and the files of one file after the other
(`run_any_schedule`).
-/
import RouteDoc.Proofs.Generator.Endings

namespace RouteDoc

open Go

/-! ## Blocks that are known -/

namespace Generator

variable (g : Generator) {w : Workspace} {files : List String} {path : String} {q : Place} {s s' : Session}

/-- Writes blocks that are known, one after the other, until one breaks it off. -/
def writeAll (path : String) : List Annotated → FileResult → Session → FileResult × Session
  | [], r, s => (r, s)
  | a :: as, r, s =>
    let written := g.writeBlock path (some (PathText.base path)) a r s
    if written.1.raised.isSome then written else writeAll path as written.1 written.2

/-- Two results of handling the file at a place that nobody can tell apart there. -/
def Agrees (q : Place) (x y : FileResult × Session) : Prop :=
  x.1 = y.1 ∧ x.2.workspace.entryAt q = y.2.workspace.entryAt q

theorem Agrees.trans {x y z : FileResult × Session} (h : Agrees q x y) (h' : Agrees q y z) : Agrees q x z :=
  ⟨h.1.trans h'.1, h.2.trans h'.2⟩

theorem writeBlock_congr (h : s.workspace.Alike s'.workspace) (hq : s.workspace.locate path = .ok q)
    (he : s.workspace.entryAt q = s'.workspace.entryAt q) (file : Option String) (a : Annotated) (r : FileResult) :
    Agrees q (g.writeBlock path file a r s) (g.writeBlock path file a r s') := by
  unfold writeBlock
  dsimp only
  split
  · exact ⟨rfl, he⟩
  · rcases Workspace.document_congr hq (h.locate path ▸ hq) he a.handler.declaration a.block
      (g.refusal path a.handler.declaration) with ⟨failure, hs, hs'⟩ | ⟨bytes, bytes', hbytes, hs, hs'⟩
    · rw [hs, hs']
      dsimp only
      split
      · exact ⟨rfl, he⟩
      · exact ⟨rfl, he⟩
    · have hput := Workspace.entryAt_put_self hbytes (.file bytes')
      have hput' := Workspace.entryAt_put_self (he ▸ hbytes) (.file bytes')
      rw [hs, hs']
      dsimp only
      split
      · exact ⟨rfl, hput.trans hput'.symm⟩
      · exact ⟨rfl, hput.trans hput'.symm⟩

/-- Writing blocks sees nothing of a session but its own file. -/
theorem writeAll_congr (hw : s.workspace.Sound) (h : s.workspace.Alike s'.workspace)
    (hq : s.workspace.locate path = .ok q) (he : s.workspace.entryAt q = s'.workspace.entryAt q)
    (as : List Annotated) (r : FileResult) : Agrees q (g.writeAll path as r s) (g.writeAll path as r s') := by
  induction as generalizing r s s' with
  | nil => exact ⟨rfl, he⟩
  | cons a as ih =>
    have hq' : s'.workspace.locate path = .ok q := h.locate path ▸ hq
    have hblock := g.writeBlock_congr h hq he (some (PathText.base path)) a r
    have hturns := g.writeBlock_turns hq (some (PathText.base path)) a r
    have halike := hturns.alike hw
    have halike' := (g.writeBlock_turns hq' (some (PathText.base path)) a r).alike (h.sound hw)
    unfold writeAll
    dsimp only
    rw [hblock.1]
    split
    · exact hblock
    · exact ih (hturns.sound hw) (halike.symm.trans (h.trans halike')) (halike.locate path ▸ hq) hblock.2 _

/-! ## What a tree says -/

/-- What the file at a path says about a name. -/
def structureIn (w : Workspace) (name path : String) : Option RequestType :=
  (Source.load w (PathText.absolute w.cwdText path)).toOption.bind fun found => RequestType.inTypes? name found.types

/-- What the type files of a tree say about a name with its package. -/
def answerIn (w : Workspace) (qualified : String) : RequestType :=
  match typeNameOf qualified with
  | none => []
  | some name => ((typeFiles w g.settings.typesPaths).findSome? (structureIn w name)).getD []

/-- A handler with the block that a tree has for it. -/
def annotatedIn (w : Workspace) (h : Handler) : Annotated :=
  g.annotated h (g.answerIn w (DocBlock.requestName h.name))

/-- No path that the type patterns stand for leads to one of the files. -/
def TypesApart (w : Workspace) (files : List String) : Prop :=
  ∀ t ∈ typeFiles w g.settings.typesPaths, ∀ f ∈ files, w.locate (PathText.absolute w.cwdText t) ≠ w.locate f

/-- Files at places of their own that hold no types. -/
structure Independent (w : Workspace) (files : List String) : Prop where
  sound : w.Sound
  found : ∀ f ∈ files, ∃ q bytes, w.locate f = .ok q ∧ w.entryAt q = some (.file bytes)
  distinct : files.Pairwise fun f f' => w.locate f ≠ w.locate f'
  types : g.TypesApart w files

/-- A session that knows what the tree said at the start, and in which only the files may have changed. -/
structure Faithful (w : Workspace) (files : List String) (s : Session) : Prop where
  alike : w.Alike s.workspace
  elsewhere : ∀ p, (∀ f ∈ files, w.locate f ≠ .ok p) → s.workspace.entryAt p = w.entryAt p
  sources : ∀ e ∈ s.sources, Source.load w e.1 = .ok e.2
  answers : ∀ e ∈ s.requestTypes, e.2 = g.answerIn w e.1

namespace Faithful

variable {g}

theorem start (w : Workspace) (files : List String) (notes : List Note) :
    g.Faithful w files ⟨w, [], [], notes⟩ :=
  ⟨.refl w, fun _ _ => rfl, (fun _ he => nomatch he), (fun _ he => nomatch he)⟩

theorem note (h : g.Faithful w files s) (n : Note) : g.Faithful w files (s.note n) :=
  ⟨h.alike, h.elsewhere, h.sources, h.answers⟩

theorem notes (h : g.Faithful w files s) (ns : List Note) : g.Faithful w files (ns.foldl Session.note s) := by
  induction ns generalizing s with
  | nil => exact h
  | cons n ns ih => exact ih (h.note n)

/-- Whoever asks for a source that nobody has written gets it as it was at the start. -/
theorem source (h : g.Faithful w files s) (file : Option String)
    (hsame : ∀ p, w.locate (PathText.absolute w.cwdText path) = .ok p → s.workspace.entryAt p = w.entryAt p) :
    (s.source file path).1 = Source.load w (PathText.absolute w.cwdText path) ∧
      g.Faithful w files (s.source file path).2 := by
  have hkey : s.keyOf path = PathText.absolute w.cwdText path := by rw [Session.keyOf, h.alike.cwdText]
  have hload : Source.load w (s.keyOf path) = Source.load s.workspace (s.keyOf path) := by
    refine Session.load_eq (h.alike.read_eq fun p hp => (hsame p ?_).symm)
    rwa [← hkey]
  rw [← hkey]
  obtain ⟨found, hkept, hs⟩ | ⟨failure, -, hfail, hs⟩ | ⟨found, n, -, hfound, hs⟩ := Session.source_cases file path s
  · rw [hs]
    refine ⟨?_, h⟩
    obtain ⟨e, he, rfl⟩ := Option.map_eq_some_iff.1 hkept
    have hsource := h.sources e (List.mem_of_find?_eq_some he)
    have hpath : e.1 = s.keyOf path := by simpa using List.find?_some he
    rw [← hpath, hsource]
  · rw [hs, hload, hfail]
    exact ⟨rfl, h⟩
  · rw [hs, hload, hfound]
    refine ⟨rfl, h.alike, h.elsewhere, ?_, h.answers⟩
    intro e he
    rcases List.mem_append.1 he with he | he
    · exact h.sources e he
    · rw [List.mem_singleton.1 he, hload, hfound]

theorem known (h : g.Faithful w files s) {x : Handler} {type : RequestType} (hknown : known? s x = some type) :
    type = g.answerIn w (DocBlock.requestName x.name) := by
  obtain ⟨e, he, rfl⟩ := Option.map_eq_some_iff.1 hknown
  have hname : e.1 = DocBlock.requestName x.name := by simpa using List.find?_some he
  rw [← hname]
  exact h.answers e (List.mem_of_find?_eq_some he)

theorem answer (h : g.Faithful w files s) (qualified : String) :
    g.Faithful w files { s with requestTypes := s.requestTypes ++ [(qualified, g.answerIn w qualified)] } := by
  refine ⟨h.alike, h.elsewhere, h.sources, fun e he => ?_⟩
  rcases List.mem_append.1 he with he | he
  · exact h.answers e he
  · rw [List.mem_singleton.1 he]

end Faithful

theorem writeBlock_faithful (hi : g.Independent w files) (h : g.Faithful w files s) (hpath : path ∈ files)
    (a : Annotated) (r : FileResult) :
    g.Faithful w files (g.writeBlock path (some (PathText.base path)) a r s).2 ∧
      ∀ p, w.locate path ≠ .ok p → (g.writeBlock path (some (PathText.base path)) a r s).2.workspace.entryAt p =
        s.workspace.entryAt p := by
  obtain ⟨q, bytes, hq, -⟩ := hi.found path hpath
  have hturns := g.writeBlock_turns (h.alike.locate path ▸ hq) (some (PathText.base path)) a r
  have hframe : ∀ p, w.locate path ≠ .ok p → (g.writeBlock path (some (PathText.base path)) a r s).2.workspace.entryAt p =
      s.workspace.entryAt p := fun p hp => hturns.entryAt fun hpq => hp (hpq ▸ hq)
  have hsame := g.writeBlock_memory path (some (PathText.base path)) a r s
  refine ⟨⟨h.alike.trans (hturns.alike (h.alike.sound hi.sound)), fun p hp => ?_, ?_, ?_⟩, hframe⟩
  · rw [hframe p (hp path hpath), h.elsewhere p hp]
  · rw [hsame.1]; exact h.sources
  · rw [hsame.2]; exact h.answers

/-! ## What a task still has to do -/

/-- The blocks to write in a file, and the result before any of them is written. -/
def planned (w : Workspace) (path : String) : Except Failure Source → List Annotated × FileResult
  | .error failure => ([], ⟨path, {}, some failure, [], none⟩)
  | .ok source =>
    ((pendingOf source.declarations).reverse.map (g.annotatedIn w), ⟨path, countsOf source.declarations, none, [], none⟩)

/-- The blocks that a task still has to write, and its result so far, where it learns what the tree says. -/
def left (w : Workspace) (path : String) : Task → List Annotated × FileResult
  | .waiting => g.planned w path (Source.load w (PathText.absolute w.cwdText path))
  | .asking hs r => (hs.map (g.annotatedIn w), r)
  | .listing h hs r _ | .searching h hs r _ _ | .answering h hs r _ => ((h :: hs).map (g.annotatedIn w), r)
  | .writing a hs r => (a :: hs.map (g.annotatedIn w), r)
  | .done r => ([], r)

/-- The result of a task and the session that it leaves, where it learns what the tree says. -/
def outcome (w : Workspace) (path : String) (t : Task) (s : Session) : FileResult × Session :=
  g.writeAll path (g.left w path t).1 (g.left w path t).2 s

theorem outcome_congr {t : Task} (hw : s.workspace.Sound) (h : s.workspace.Alike s'.workspace)
    (hq : s.workspace.locate path = .ok q) (he : s.workspace.entryAt q = s'.workspace.entryAt q) :
    Agrees q (g.outcome w path t s) (g.outcome w path t s') := by
  unfold outcome
  exact g.writeAll_congr hw h hq he _ _

/-- What a task has learnt is what the tree says, and its file is as it was as long as it waits. -/
def Fits (w : Workspace) (path : String) (s : Session) : Task → Prop
  | .waiting => ∀ q, w.locate path = .ok q → s.workspace.entryAt q = w.entryAt q
  | .listing h _ _ name => typeNameOf (DocBlock.requestName h.name) = some name
  | .searching h _ _ name paths =>
    (∀ p ∈ paths, p ∈ typeFiles w g.settings.typesPaths) ∧
      g.answerIn w (DocBlock.requestName h.name) = (paths.findSome? (structureIn w name)).getD []
  | .answering h _ _ type => type = g.answerIn w (DocBlock.requestName h.name)
  | _ => True

theorem Fits.frame {t : Task} (h : g.Fits w path s t)
    (he : ∀ q, w.locate path = .ok q → s'.workspace.entryAt q = s.workspace.entryAt q) : g.Fits w path s' t := by
  cases t with
  | waiting => exact fun q hq => (he q hq).trans (h q hq)
  | asking _ _ | listing _ _ _ _ | searching _ _ _ _ _ | answering _ _ _ _ | writing _ _ _ | done _ => exact h

/-- What a step of a task keeps. -/
structure Keeps (w : Workspace) (files : List String) (path : String) (t : Task) (s : Session) (t' : Task)
    (s' : Session) : Prop where
  faithful : g.Faithful w files s'
  frame : ∀ p, w.locate path ≠ .ok p → s'.workspace.entryAt p = s.workspace.entryAt p
  fits : g.Fits w path s' t'
  outcome : ∀ q, w.locate path = .ok q → Agrees q (g.outcome w path t' s') (g.outcome w path t s)

variable {g}

/-- A step that writes nothing keeps what is left. -/
theorem Faithful.keeps (h : g.Faithful w files s') (hw : w.Sound) {t t' : Task}
    (hsame : s'.workspace = s.workspace) (hfits : g.Fits w path s' t') (hleft : g.left w path t' = g.left w path t) :
    g.Keeps w files path t s t' s' := by
  refine ⟨h, fun _ _ => by rw [hsame], hfits, fun q hq => ?_⟩
  unfold Generator.outcome
  rw [hleft]
  exact g.writeAll_congr (h.alike.sound hw) (hsame ▸ .refl _) (h.alike.locate path ▸ hq) (by rw [hsame]) _ _

theorem step_waiting (hi : g.Independent w files) (h : g.Faithful w files s) (hpath : path ∈ files)
    (hfits : g.Fits w path s .waiting) :
    g.Keeps w files path .waiting s (g.step path .waiting s).1 (g.step path .waiting s).2 := by
  obtain ⟨q, bytes, hq, -⟩ := hi.found path hpath
  have hsource := h.source (some (PathText.base path)) fun p hp => by
    rw [Workspace.locate_absolute hi.sound hq] at hp
    exact hfits p (hq.trans hp)
  have hworkspace := Session.source_workspace (some (PathText.base path)) path s
  cases hs : s.source (some (PathText.base path)) path with
  | mk found s' =>
    rw [hs] at hsource hworkspace
    obtain ⟨hload, hfaithful⟩ := hsource
    dsimp only at hload hfaithful hworkspace
    have hleft : g.left w path .waiting = g.planned w path found := by rw [hload]; rfl
    cases found with
    | error failure =>
      simp only [step, collect, hs]
      exact (hfaithful.note _).keeps hi.sound hworkspace trivial hleft.symm
    | ok source =>
      simp only [step, collect, hs]
      exact (hfaithful.notes _).keeps hi.sound ((Session.foldl_note_workspace _ _).trans hworkspace) trivial hleft.symm

theorem step_asking (hi : g.Independent w files) (h : g.Faithful w files s) (hs : List Handler) (r : FileResult) :
    g.Keeps w files path (.asking hs r) s (g.step path (.asking hs r) s).1 (g.step path (.asking hs r) s).2 := by
  cases hs with
  | nil => exact h.keeps hi.sound rfl trivial rfl
  | cons x hs =>
    cases hknown : known? s x with
    | some type =>
      have hleft : g.left w path (.writing (g.annotated x type) hs r) = g.left w path (.asking (x :: hs) r) := by
        rw [h.known hknown]
        rfl
      simp only [step, hknown]
      exact h.keeps hi.sound rfl trivial hleft
    | none =>
      cases hname : typeNameOf (DocBlock.requestName x.name) with
      | none =>
        have hanswer : [] = g.answerIn w (DocBlock.requestName x.name) := by simp only [answerIn, hname]
        simp only [step, hknown, hname]
        exact h.keeps hi.sound rfl hanswer rfl
      | some name =>
        simp only [step, hknown, hname]
        exact h.keeps hi.sound rfl hname rfl

theorem step_searching (hi : g.Independent w files) (h : g.Faithful w files s) {x : Handler} {hs : List Handler}
    {r : FileResult} {name : String} {paths : List String} (hfits : g.Fits w path s (.searching x hs r name paths)) :
    g.Keeps w files path (.searching x hs r name paths) s (g.step path (.searching x hs r name paths) s).1
      (g.step path (.searching x hs r name paths) s).2 := by
  obtain ⟨hpaths, hanswer⟩ := hfits
  cases paths with
  | nil => exact (h.note _).keeps hi.sound rfl hanswer.symm rfl
  | cons p paths =>
    obtain ⟨hp, hpaths⟩ := List.forall_mem_cons.1 hpaths
    -- Nobody writes a type file.
    have hsource := h.source (some (PathText.base path)) fun q hq => h.elsewhere q fun f hf hlocate =>
      hi.types p hp f hf (hq.trans hlocate.symm)
    have hworkspace := Session.source_workspace (some (PathText.base path)) p s
    rw [List.findSome?_cons] at hanswer
    cases hs' : s.source (some (PathText.base path)) p with
    | mk found s' =>
      rw [hs'] at hsource hworkspace
      obtain ⟨hload, hfaithful⟩ := hsource
      dsimp only at hload hfaithful hworkspace
      rw [structureIn, ← hload] at hanswer
      cases found with
      | error failure =>
        simp only [step, hs']
        exact (hfaithful.note _).keeps hi.sound hworkspace ⟨hpaths, hanswer⟩ rfl
      | ok source =>
        cases htype : RequestType.inTypes? name source.types with
        | some type =>
          simp only [Except.toOption, Option.bind_some, htype] at hanswer
          simp only [step, hs', htype]
          exact hfaithful.keeps hi.sound hworkspace hanswer.symm rfl
        | none =>
          simp only [Except.toOption, Option.bind_some, htype] at hanswer
          simp only [step, hs', htype]
          exact hfaithful.keeps hi.sound hworkspace ⟨hpaths, hanswer⟩ rfl

/-- **One step of one task** learns what the tree says, and changes nothing about how the task ends. -/
theorem step_keeps (hi : g.Independent w files) (h : g.Faithful w files s) (hpath : path ∈ files) {t : Task}
    (hfits : g.Fits w path s t) : g.Keeps w files path t s (g.step path t s).1 (g.step path t s).2 := by
  cases t with
  | waiting => exact step_waiting hi h hpath hfits
  | asking hs r => exact step_asking hi h hs r
  | listing x hs r name =>
    refine h.keeps hi.sound rfl ⟨fun p hp => ?_, ?_⟩ rfl
    · rwa [h.alike.typeFiles]
    · rw [← h.alike.typeFiles]
      change typeNameOf (DocBlock.requestName x.name) = some name at hfits
      simp only [answerIn, hfits]
  | searching x hs r name paths => exact step_searching hi h hfits
  | answering x hs r type =>
    have hanswer : type = g.answerIn w (DocBlock.requestName x.name) := hfits
    subst hanswer
    cases hknown : known? s x with
    | some type =>
      have hleft : g.left w path (.writing (g.annotated x type) hs r) =
          g.left w path (.answering x hs r (g.answerIn w (DocBlock.requestName x.name))) := by
        rw [h.known hknown]
        rfl
      simp only [step, hknown]
      exact h.keeps hi.sound rfl trivial hleft
    | none =>
      simp only [step, hknown]
      exact (h.answer _).keeps hi.sound rfl trivial rfl
  | writing a hs r =>
    obtain ⟨hfaithful, hframe⟩ := g.writeBlock_faithful hi h hpath a r
    have houtcome : g.outcome w path (.writing a hs r) s =
        g.outcome w path (g.step path (.writing a hs r) s).1 (g.step path (.writing a hs r) s).2 := by
      rw [step_writing]
      unfold outcome left
      rw [writeAll]
      dsimp only
      split
      · rfl
      · rfl
    refine ⟨hfaithful, hframe, ?_, fun _ _ => houtcome ▸ ⟨rfl, rfl⟩⟩
    rw [step_writing]
    dsimp only
    split
    · trivial
    · trivial
  | done r => exact h.keeps hi.sound rfl trivial rfl

end Generator

/-! ## What a pool keeps -/

namespace Pool

variable {g : Generator} {w : Workspace} {files : List String} {p p' : Pool}

/-- The tasks of a pool know what the tree says, and they end as they would have ended alone. -/
structure Inv (g : Generator) (w : Workspace) (files : List String) (p : Pool) : Prop where
  paths : p.tasks.map Prod.fst = files
  faithful : g.Faithful w files p.session
  fits : ∀ x ∈ p.tasks, g.Fits w x.1 p.session x.2
  outcomes : ∀ x ∈ p.tasks, ∀ q, w.locate x.1 = .ok q →
    Generator.Agrees q (g.outcome w x.1 x.2 p.session) (g.outcome w x.1 .waiting (.start w))

theorem Inv.path_mem (h : p.Inv g w files) {x : String × Task} (hx : x ∈ p.tasks) : x.1 ∈ files :=
  h.paths ▸ List.mem_map_of_mem hx

theorem inv_start (hi : g.Independent w files) (notes : List Note) :
    (start files ⟨w, [], [], notes⟩).Inv g w files := by
  have hmem : ∀ x ∈ (start files ⟨w, [], [], notes⟩).tasks, ∃ f, x = (f, .waiting) := by
    intro x hx
    obtain ⟨f, -, rfl⟩ := List.mem_map.1 hx
    exact ⟨f, rfl⟩
  refine ⟨by simp [start, Function.comp_def], .start w files notes, fun x hx => ?_, fun x hx q hq => ?_⟩
  · obtain ⟨f, rfl⟩ := hmem x hx
    exact fun _ _ => rfl
  · obtain ⟨f, rfl⟩ := hmem x hx
    have hsame : Generator.Agrees q (g.outcome w f .waiting ⟨w, [], [], notes⟩)
        (g.outcome w f .waiting (.start w)) := g.outcome_congr hi.sound (.refl w) hq rfl
    exact hsame

/-- **One step** of any task. -/
theorem Inv.step (hi : g.Independent w files) (h : p.Inv g w files) (i : Nat) : (p.step g i).Inv g w files := by
  have hpaths := (paths_step g p i).trans h.paths
  unfold Pool.step at hpaths ⊢
  cases hget : p.tasks[i]? with
  | none => exact h
  | some x =>
    obtain ⟨path, t⟩ := x
    rw [hget] at hpaths
    have hmem := List.mem_of_getElem? hget
    have hpath := h.path_mem hmem
    obtain ⟨q, -, hq, -⟩ := hi.found path hpath
    have hkeeps := Generator.step_keeps hi h.faithful hpath (h.fits _ hmem)
    have hothers : ∀ x ∈ p.tasks, w.locate x.1 ≠ w.locate path → ∀ q, w.locate x.1 = .ok q →
        (g.step path t p.session).2.workspace.entryAt q = p.session.workspace.entryAt q := by
      intro x _ hne q hq
      exact hkeeps.frame q fun hq' => hne (hq.trans hq'.symm)
    refine ⟨hpaths, hkeeps.faithful, fun x hx => ?_, fun x hx q hq => ?_⟩
    · rcases mem_set_cases hi.distinct h.paths hget hx with rfl | ⟨hx, hne⟩
      · exact hkeeps.fits
      · exact (h.fits x hx).frame g (hothers x hx hne)
    · rcases mem_set_cases hi.distinct h.paths hget hx with rfl | ⟨hx, hne⟩
      · have hown := hkeeps.outcome q hq
        have hbefore := h.outcomes _ hmem q hq
        exact hown.trans hbefore
      · have hsame : Generator.Agrees q (g.outcome w x.1 x.2 (g.step path t p.session).2)
            (g.outcome w x.1 x.2 p.session) :=
          g.outcome_congr (hkeeps.faithful.alike.sound hi.sound)
            (hkeeps.faithful.alike.symm.trans h.faithful.alike) (hkeeps.faithful.alike.locate x.1 ▸ hq)
            (hothers x hx hne q hq)
        have hbefore := h.outcomes x hx q hq
        exact hsame.trans hbefore

/-- **Every schedule** keeps it. -/
theorem Inv.run (hi : g.Independent w files) (h : p.Inv g w files) (schedule : List Nat) :
    (p.run g schedule).Inv g w files := by
  induction schedule generalizing p with
  | nil => exact h
  | cons i schedule ih => exact ih (h.step hi i)

/-! ## Pools that are done -/

theorem Inv.done (h : p.Inv g w files) {x : String × Task} (hx : x ∈ p.tasks) (hdone : x.2.result?.isSome) {q : Place}
    (hq : w.locate x.1 = .ok q) :
    x.2.result? = some (g.outcome w x.1 .waiting (.start w)).1 ∧
      p.session.workspace.entryAt q = (g.outcome w x.1 .waiting (.start w)).2.workspace.entryAt q := by
  obtain ⟨path, t⟩ := x
  have hend := h.outcomes _ hx q hq
  cases t with
  | done r =>
    have hnow : g.outcome w path (.done r) p.session = (r, p.session) := rfl
    rw [hnow] at hend
    exact ⟨congrArg some hend.1, hend.2⟩
  | waiting | asking _ _ | listing _ _ _ _ | searching _ _ _ _ _ | answering _ _ _ _ | writing _ _ _ => cases hdone

/-- All pools that are done have the same results and the same files. -/
theorem Inv.unique (hi : g.Independent w files) (h : p.Inv g w files) (h' : p'.Inv g w files) (hdone : p.Finished)
    (hdone' : p'.Finished) : p.results = p'.results ∧ p.session.workspace = p'.session.workspace := by
  have hresults : ∀ p : Pool, p.Inv g w files → p.Finished →
      p.results = files.map fun f => (g.outcome w f .waiting (.start w)).1 := by
    intro p h hdone
    refine results_eq ?_
    rw [← h.paths, List.map_map, List.map_map]
    refine List.map_congr_left fun x hx => ?_
    obtain ⟨q, -, hq, -⟩ := hi.found x.1 (h.path_mem hx)
    exact (h.done hx (hdone x hx) hq).1
  have hentries : ∀ p : Pool, p.Inv g w files → p.Finished → ∀ f ∈ files, ∀ q, w.locate f = .ok q →
      p.session.workspace.entryAt q = (g.outcome w f .waiting (.start w)).2.workspace.entryAt q := by
    intro p h hdone f hf q hq
    obtain ⟨x, hx, rfl⟩ := List.mem_map.1 (h.paths ▸ hf)
    exact (h.done hx (hdone x hx) hq).2
  refine ⟨(hresults p h hdone).trans (hresults p' h' hdone').symm, ?_⟩
  refine (h.faithful.alike.symm.trans h'.faithful.alike).eq_of_entryAt (h.faithful.alike.sound hi.sound) fun q => ?_
  by_cases hq : ∃ f ∈ files, w.locate f = .ok q
  · obtain ⟨f, hf, hq⟩ := hq
    rw [hentries p h hdone f hf q hq, hentries p' h' hdone' f hf q hq]
  · have hnone : ∀ f ∈ files, w.locate f ≠ .ok q := fun f hf hlocate => hq ⟨f, hf, hlocate⟩
    rw [h.faithful.elsewhere q hnone, h'.faithful.elsewhere q hnone]

end Pool

namespace Generator

variable (g : Generator) {w : Workspace} {files : List String}

theorem independent_handlerFiles (hw : w.Sound) {dir pattern : String}
    (hfiles : Discovery.handlerFiles w dir pattern = .ok files) (htypes : g.TypesApart w files) :
    g.Independent w files := by
  obtain ⟨hfound, hdistinct⟩ := Workspace.handlerFiles_files hw hfiles
  exact ⟨hw, hfound, hdistinct, htypes⟩

/-- **Every schedule.** Where no type file is a handler file, a pool of tasks for the handler files that all get
enough turns is done, and a pool that is done has the results and the files of one file after the other, in
whatever order the tasks had their turns. So it ends as a run does. -/
theorem run_any_schedule (hw : w.Sound)
    (hfiles : Discovery.handlerFiles w g.settings.handlerDir g.settings.handlerPattern = .ok files)
    (htypes : g.TypesApart w files) :
    (∃ n, ∀ schedule : List Nat, (∀ i < files.length, n ≤ schedule.count i) →
      ((Pool.start files (.start w)).run g schedule).Finished) ∧
    ∀ schedule : List Nat, ((Pool.start files (.start w)).run g schedule).Finished →
      let p := (Pool.start files (.start w)).run g schedule
      p.results = (g.processFiles files (.start w)).1 ∧
        p.session.workspace = (g.processFiles files (.start w)).2.workspace ∧
        (files ≠ [] → ∃ s', g.run (.start w) = (verdict p.results, s') ∧ s'.workspace = p.session.workspace) := by
  have hi := g.independent_handlerFiles hw hfiles htypes
  refine ⟨Pool.run_finishes g hw (apart_start hw hfiles []), fun schedule hdone => ?_⟩
  have hinv := (Pool.inv_start hi []).run hi schedule
  intro p
  -- One file after the other is a schedule too, whatever notes there are before it.
  have hsequential : ∀ notes : List Note, p.results = (g.processFiles files ⟨w, [], [], notes⟩).1 ∧
      p.session.workspace = (g.processFiles files ⟨w, [], [], notes⟩).2.workspace := by
    intro notes
    obtain ⟨sequence, hfinished, hresults, hsession⟩ := Pool.run_sequential (g := g) files ⟨w, [], [], notes⟩
    have hsame := hinv.unique hi ((Pool.inv_start hi notes).run hi sequence) hdone hfinished
    rw [hresults, hsession] at hsame
    exact hsame
  refine ⟨(hsequential []).1, (hsequential []).2, fun hne => ?_⟩
  obtain ⟨notes, s', hrun, hworkspace⟩ := g.run_eq (s := .start w) hfiles hne
  refine ⟨s', ?_, hworkspace.trans (hsequential notes).2.symm⟩
  rw [hrun, (hsequential notes).1]
  rfl

/-- Two handler files that ask for the same request type, and a file with types elsewhere. -/
def twoFiles : Workspace where
  entries := [(["h"], .directory), (["h", "a.go"], .file oneHandler), (["h", "b.go"], .file twoHandlers),
    (["t"], .directory), (["t", "t.go"], .file (Text.utf8 "package t\n\ntype AReq struct \x7b\x7d\n"))]
  cwd := []

/-- A generator that looks for types. -/
def typedGenerator : Generator where
  settings := ⟨"h", "router.go", ["t/t.go"], "*.go", "BearerAuth", "/api", 2, false, "authorized", "public", false⟩
  routes := []

theorem handlerFiles_twoFiles : Discovery.handlerFiles twoFiles "h" "*.go" = .ok ["h/a.go", "h/b.go"] := by
  have hlocate : twoFiles.locate "h" = .ok ["h"] := by decide +kernel
  exact Workspace.handlerFiles_eq hlocate (by decide +kernel) (by decide +kernel) (by decide +kernel)

theorem typeFiles_twoFiles : typeFiles twoFiles typedGenerator.settings.typesPaths = ["t/t.go"] := by
  have hexpand : Glob.expand twoFiles "t/t.go" = ["t/t.go"] := by decide +kernel
  have hpaths : typedGenerator.settings.typesPaths = ["t/t.go"] := rfl
  rw [typeFiles, hpaths, List.flatMap_singleton, Glob.expandSorted, hexpand, Text.sortStrings, List.mergeSort_singleton]
  decide +kernel

/-- The two files turn by turn. -/
theorem run_any_schedule_twoFiles :
    ∃ n, let p := (Pool.start ["h/a.go", "h/b.go"] (.start twoFiles)).run typedGenerator (List.replicate n [0, 1]).flatten
      p.Finished ∧ p.results = (typedGenerator.processFiles ["h/a.go", "h/b.go"] (.start twoFiles)).1 := by
  have htypes : typedGenerator.TypesApart twoFiles ["h/a.go", "h/b.go"] := by
    unfold TypesApart
    rw [typeFiles_twoFiles]
    decide +kernel
  obtain ⟨⟨n, hends⟩, hsame⟩ := typedGenerator.run_any_schedule (by decide +kernel) handlerFiles_twoFiles htypes
  have hdone := hends (List.replicate n [0, 1]).flatten fun i hi => by
    have hi : i = 0 ∨ i = 1 := by
      simp only [List.length_cons, List.length_nil] at hi
      omega
    rcases hi with rfl | rfl <;> simp [List.count_flatten]
  exact ⟨n, hdone, (hsame _ hdone).1⟩

end Generator

end RouteDoc
