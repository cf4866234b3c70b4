/-
Files that are handled side by side.

Handling a file is cut into the steps that nothing else can come between
(`Task.step`): reading the file, asking for an answer that is known, listing the
type files, reading one of them, giving an answer, writing one block. A pool has
a task for each file and one session that all of them share, and a schedule says
whose turn it is. A task that is left alone does what `processFile` does
(`leads_processFile`), so to handle the files one after the other is one of the
schedules (`run_sequential`).
-/
import RouteDoc.Proofs.Generator.Files
import RouteDoc.Proofs.Workspace.Globs

namespace RouteDoc

open Go

/-- How far the handling of a file has come. Behind the first handler stand those that are left, and the
result so far. -/
inductive Task where
  /-- The file has not been read. -/
  | waiting
  /-- The next handler needs a request type. -/
  | asking (hs : List Handler) (r : FileResult)
  /-- There is no answer for the handler yet; its request type has this name. -/
  | listing (h : Handler) (hs : List Handler) (r : FileResult) (name : String)
  /-- The name is searched for in the paths that are left. -/
  | searching (h : Handler) (hs : List Handler) (r : FileResult) (name : String) (paths : List String)
  /-- The request type is there, but nobody else has seen it. -/
  | answering (h : Handler) (hs : List Handler) (r : FileResult) (type : RequestType)
  /-- The block is there, but it has not been written. If it has no bytes, the task ends here. -/
  | writing (a : Annotated) (hs : List Handler) (r : FileResult)
  | done (r : FileResult)

/-- The result of a task that is done. -/
def Task.result? : Task → Option FileResult
  | .done r => some r
  | _ => none

namespace Generator

variable (g : Generator)

/-- A handler with its block, where its request type is known. -/
def annotated (h : Handler) (type : RequestType) : Annotated :=
  let route := Route.resolve g.routes g.lead h.name
  ⟨h, route, DocBlock.block g.scheme type h.name h.receiver route⟩

/-- The answer that is known for a name. -/
def known? (s : Session) (h : Handler) : Option RequestType :=
  (s.requestTypes.find? fun e => e.1 == DocBlock.requestName h.name).map (·.2)

/-- One step of the task for the file at a path. -/
def step (path : String) : Task → Session → Task × Session
  | .waiting, s =>
    let file := some (PathText.base path)
    match collect file path s with
    | (.error failure, s) =>
      (.done ⟨path, {}, some failure, [], none⟩, s.note (reportNote .error "Error processing file"
        [("path", .str path), ("error", .str failure.reason)] file))
    | (.ok (counts, pending), s) => (.asking pending.reverse ⟨path, counts, none, [], none⟩, s)
  | .asking [] r, s => (.done r, s)
  | .asking (h :: hs) r, s =>
    match known? s h with
    | some type => (.writing (g.annotated h type) hs r, s)
    | none =>
      match typeNameOf (DocBlock.requestName h.name) with
      | none => (.answering h hs r [], s)
      | some name => (.listing h hs r name, s)
  | .listing h hs r name, s => (.searching h hs r name (typeFiles s.workspace g.settings.typesPaths), s)
  | .searching h hs r _ [], s =>
    (.answering h hs r [], s.note ⟨.debug, loggerName "reflector", "Request type not found",
      [("type", .str (DocBlock.requestName h.name))], some (PathText.base path)⟩)
  | .searching h hs r name (p :: paths), s =>
    match s.source (some (PathText.base path)) p with
    | (.error failure, s) =>
      (.searching h hs r name paths, s.note ⟨.warning, loggerName "reflector", "Skipping type source",
        [("path", .str p), ("error", .str failure.reason)], some (PathText.base path)⟩)
    | (.ok found, s) =>
      match RequestType.inTypes? name found.types with
      | some type => (.answering h hs r type, s)
      | none => (.searching h hs r name paths, s)
  -- An answer that somebody else has given in the meantime stays.
  | .answering h hs r type, s =>
    match known? s h with
    | some type => (.writing (g.annotated h type) hs r, s)
    | none =>
      (.writing (g.annotated h type) hs r,
        { s with requestTypes := s.requestTypes ++ [(DocBlock.requestName h.name, type)] })
  | .writing a hs r, s =>
    let (r, s) := g.writeBlock path (some (PathText.base path)) a r s
    (if r.raised.isSome then .done r else .asking hs r, s)
  | .done r, s => (.done r, s)

end Generator

/-- Tasks with the paths of their files, and the session that they share. -/
structure Pool where
  tasks : List (String × Task)
  session : Session

namespace Pool

/-- A pool that has not begun. -/
def start (files : List String) (s : Session) : Pool := ⟨files.map fun f => (f, .waiting), s⟩

/-- The pool after one step of the task with a number; a number without a task does nothing. -/
def step (g : Generator) (p : Pool) (i : Nat) : Pool :=
  match p.tasks[i]? with
  | none => p
  | some (path, t) =>
    let (t, s) := g.step path t p.session
    ⟨p.tasks.set i (path, t), s⟩

/-- The pool after steps of the tasks with these numbers, in order. -/
def run (g : Generator) (schedule : List Nat) (p : Pool) : Pool := schedule.foldl (step g) p

/-- The results of the tasks that are done, in the order of the files. -/
def results (p : Pool) : List FileResult := p.tasks.filterMap fun x => x.2.result?

def Finished (p : Pool) : Prop := ∀ x ∈ p.tasks, x.2.result?.isSome

end Pool

namespace Generator

variable (g : Generator) {path : String} {t t' t'' : Task} {s s' s'' : Session}

/-! ## A task alone -/

/-- Some steps of one task, with nothing between them. -/
inductive Leads (path : String) (t : Task) (s : Session) : Task → Session → Prop where
  | refl : Leads path t s t s
  | step {t' : Task} {s' : Session} : Leads path t s t' s' →
      Leads path t s (g.step path t' s').1 (g.step path t' s').2

variable {g}

theorem Leads.trans (h : g.Leads path t s t' s') (h' : g.Leads path t' s' t'' s'') : g.Leads path t s t'' s'' := by
  induction h' with
  | refl => exact h
  | step _ ih => exact ih.step

theorem leads_step (h : g.step path t s = (t', s')) : g.Leads path t s t' s' := by
  have hstep : g.Leads path t s (g.step path t s).1 (g.step path t s).2 := .step .refl
  rwa [h] at hstep

theorem Leads.first (h : g.Leads path t s t' s') :
    (t = t' ∧ s = s') ∨ g.Leads path (g.step path t s).1 (g.step path t s).2 t' s' := by
  induction h with
  | refl => exact .inl ⟨rfl, rfl⟩
  | step _ ih =>
    rcases ih with ⟨rfl, rfl⟩ | hrest
    · exact .inr .refl
    · exact .inr hrest.step

/-- A task comes to an end in one way only. -/
theorem Leads.unique {r r' : FileResult} (h : g.Leads path t s (.done r) s') (h' : g.Leads path t s (.done r') s'') :
    r = r' ∧ s' = s'' := by
  have hstays : ∀ {t₁ : Task} {s₁ : Session}, g.Leads path (.done r) s' t₁ s₁ → t₁ = .done r ∧ s₁ = s' := by
    intro t₁ s₁ hrest
    induction hrest with
    | refl => exact ⟨rfl, rfl⟩
    | step _ ih =>
      obtain ⟨rfl, rfl⟩ := ih
      exact ⟨rfl, rfl⟩
  -- Whatever way the one has gone, the other end still lies ahead.
  have hahead : ∀ {t₁ : Task} {s₁ : Session}, g.Leads path t s t₁ s₁ → g.Leads path t₁ s₁ (.done r') s'' := by
    intro t₁ s₁ hway
    induction hway with
    | refl => exact h'
    | step _ ih =>
      rcases ih.first with ⟨rfl, rfl⟩ | hrest
      · exact .refl
      · exact hrest
  obtain ⟨hr, hs⟩ := hstays (hahead h)
  exact ⟨(Task.done.inj hr).symm, hs.symm⟩

variable (g)

/-- A search reads one type file after the other. -/
theorem leads_search (h : Handler) (hs : List Handler) (r : FileResult) {name : String}
    (hname : typeNameOf (DocBlock.requestName h.name) = some name) (s : Session) :
    g.Leads path (.listing h hs r name) s
      (.answering h hs r (s.search g.settings.typesPaths (some (PathText.base path)) (DocBlock.requestName h.name)).1)
      (s.search g.settings.typesPaths (some (PathText.base path)) (DocBlock.requestName h.name)).2 := by
  have hlist : g.step path (.listing h hs r name) s =
    (.searching h hs r name (typeFiles s.workspace g.settings.typesPaths), s) := rfl
  refine (leads_step hlist).trans ?_
  unfold Session.search
  rw [hname]
  dsimp only
  generalize typeFiles s.workspace g.settings.typesPaths = paths
  induction paths generalizing s with
  | nil => exact leads_step rfl
  | cons p paths ih =>
    unfold Session.searchFiles
    cases hsource : s.source (some (PathText.base path)) p with
    | mk found s' =>
      cases found with
      | error failure => exact (leads_step (by simp only [step, hsource])).trans (ih _ rfl)
      | ok found =>
        dsimp only
        cases htype : RequestType.inTypes? name found.types with
        | some type => exact leads_step (by simp only [step, hsource, htype])
        | none => exact (leads_step (by simp only [step, hsource, htype])).trans (ih _ rfl)

theorem known?_of_find {h : Handler} {e : String × RequestType}
    (he : (s.requestTypes.find? fun e => e.1 == DocBlock.requestName h.name) = some e) : known? s h = some e.2 := by
  rw [known?, he]
  rfl

theorem known?_of_none {h : Handler}
    (he : (s.requestTypes.find? fun e => e.1 == DocBlock.requestName h.name) = none) : known? s h = none := by
  rw [known?, he]
  rfl

/-- A task alone finds the block of a handler that it would get anyway. -/
theorem leads_annotate (h : Handler) (hs : List Handler) (r : FileResult) (s : Session) :
    g.Leads path (.asking (h :: hs) r) s
      (.writing (g.annotate (some (PathText.base path)) h s).1 hs r)
      (g.annotate (some (PathText.base path)) h s).2 := by
  unfold annotate
  dsimp only
  cases hfind : s.requestTypes.find? fun e => e.1 == DocBlock.requestName h.name with
  | some e =>
    rw [Session.requestType_of_found hfind]
    refine leads_step ?_
    simp only [step, known?_of_find hfind]
    rfl
  | none =>
    have hask := known?_of_none hfind
    -- Nobody else gives an answer, so the one that the search has found is taken.
    have hanswer : ∀ (type : RequestType) (s' : Session), s'.requestTypes = s.requestTypes →
        g.Leads path (.answering h hs r type) s' (.writing (g.annotated h type) hs r)
          { s' with requestTypes := s'.requestTypes ++ [(DocBlock.requestName h.name, type)] } := by
      intro type s' hsame
      refine leads_step ?_
      rw [← hsame] at hfind
      simp only [step, known?_of_none hfind]
    unfold Session.requestType
    rw [hfind]
    dsimp only
    have hreads := Session.search_reads g.settings.typesPaths (some (PathText.base path))
      (DocBlock.requestName h.name) s
    refine Leads.trans ?_ (hanswer _ _ hreads.2)
    cases hname : typeNameOf (DocBlock.requestName h.name) with
    | none =>
      refine leads_step ?_
      simp only [step, hask, hname, Session.search]
    | some name =>
      have hmiss : g.step path (.asking (h :: hs) r) s = (.listing h hs r name, s) := by simp only [step, hask, hname]
      exact (leads_step hmiss).trans (g.leads_search h hs r hname s)

theorem step_writing (a : Annotated) (hs : List Handler) (r : FileResult) (s : Session) :
    g.step path (.writing a hs r) s =
      let written := g.writeBlock path (some (PathText.base path)) a r s
      (if written.1.raised.isSome then .done written.1 else .asking hs written.1, written.2) := rfl

theorem leads_writeBlocks (hs : List Handler) (r : FileResult) (s : Session) :
    g.Leads path (.asking hs r) s (.done (g.writeBlocks path (some (PathText.base path)) hs r s).1)
      (g.writeBlocks path (some (PathText.base path)) hs r s).2 := by
  induction hs generalizing r s with
  | nil => exact leads_step rfl
  | cons h hs ih =>
    have hasked : g.Leads path (.asking (h :: hs) r) s _ _ := g.leads_annotate h hs r s
    have hblock := hasked.trans (leads_step (g.step_writing _ hs r _))
    rw [writeBlocks_cons]
    generalize g.writeBlock path (some (PathText.base path)) (g.annotate (some (PathText.base path)) h s).1 r
      (g.annotate (some (PathText.base path)) h s).2 = written at hblock ⊢
    obtain ⟨r', s'⟩ := written
    dsimp only at hblock ⊢
    cases hraised : r'.raised.isSome with
    | true => simpa [hraised] using hblock
    | false =>
      rw [hraised] at hblock
      exact hblock.trans (ih r' s')

/-- **A task that is left alone** handles its file as it is handled in a session of its own. -/
theorem leads_processFile (path : String) (s : Session) :
    g.Leads path .waiting s (.done (g.processFile path s).1) (g.processFile path s).2 := by
  have hfirst : g.Leads path .waiting s (g.step path .waiting s).1 (g.step path .waiting s).2 := leads_step rfl
  unfold processFile
  unfold step at hfirst
  dsimp only at hfirst ⊢
  cases hcollect : collect (some (PathText.base path)) path s with
  | mk found s' =>
    rw [hcollect] at hfirst
    cases found with
    | error failure => exact hfirst
    | ok found => exact hfirst.trans (g.leads_writeBlocks _ _ _)

end Generator

/-! ## One file after the other -/

namespace Pool

variable {g : Generator} {p : Pool}

theorem run_append (xs ys : List Nat) (p : Pool) : p.run g (xs ++ ys) = (p.run g xs).run g ys :=
  List.foldl_append

/-- A task whose turn it is all the time. -/
theorem run_alone {path : String} {t t' : Task} {s s' : Session} (h : g.Leads path t s t' s')
    (before after : List (String × Task)) :
    ∃ schedule, (⟨before ++ (path, t) :: after, s⟩ : Pool).run g schedule = ⟨before ++ (path, t') :: after, s'⟩ := by
  induction h with
  | refl => exact ⟨[], rfl⟩
  | @step t' s' _ ih =>
    obtain ⟨schedule, hschedule⟩ := ih
    refine ⟨schedule ++ [before.length], ?_⟩
    rw [run_append, hschedule]
    simp [run, Pool.step]

theorem run_processFiles (files : List String) (before : List (String × Task)) (s : Session) :
    ∃ schedule tasks, (⟨before ++ files.map (fun f => (f, .waiting)), s⟩ : Pool).run g schedule =
        ⟨before ++ tasks, (g.processFiles files s).2⟩ ∧
      tasks.map (fun x => x.2.result?) = (g.processFiles files s).1.map some := by
  induction files generalizing before s with
  | nil => exact ⟨[], [], rfl, rfl⟩
  | cons f files ih =>
    obtain ⟨first, hfirst⟩ := run_alone (g.leads_processFile f s) before (files.map fun f => (f, .waiting))
    obtain ⟨rest, tasks, hrest, hresults⟩ := ih (before ++ [(f, .done (g.processFile f s).1)]) (g.processFile f s).2
    refine ⟨first ++ rest, (f, .done (g.processFile f s).1) :: tasks, ?_, ?_⟩
    · rw [List.map_cons, run_append, hfirst]
      rw [List.append_assoc, List.append_assoc] at hrest
      exact hrest
    · rw [List.map_cons, hresults]
      rfl

theorem results_eq {results : List FileResult} (h : p.tasks.map (fun x => x.2.result?) = results.map some) :
    p.results = results := by
  have hfilter : p.results = (p.tasks.map fun x => x.2.result?).filterMap id := by
    rw [Pool.results, List.filterMap_map]
    rfl
  rw [hfilter, h, List.filterMap_map]
  exact List.filterMap_some

/-- **One file after the other** is one of the schedules. -/
theorem run_sequential (files : List String) (s : Session) :
    ∃ schedule, ((start files s).run g schedule).Finished ∧
      ((start files s).run g schedule).results = (g.processFiles files s).1 ∧
      ((start files s).run g schedule).session = (g.processFiles files s).2 := by
  obtain ⟨schedule, tasks, hrun, hresults⟩ := run_processFiles (g := g) files [] s
  refine ⟨schedule, ?_⟩
  change (start files s).run g schedule = _ at hrun
  rw [hrun]
  refine ⟨fun x hx => ?_, results_eq hresults, rfl⟩
  have hmem : x.2.result? ∈ tasks.map fun x => x.2.result? := List.mem_map_of_mem hx
  rw [hresults] at hmem
  obtain ⟨r, -, hr⟩ := List.mem_map.1 hmem
  rw [← hr]
  rfl

end Pool

end RouteDoc
