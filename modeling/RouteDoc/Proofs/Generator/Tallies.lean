/-
Counts that add up.

While a file is handled, each of its handlers is documented before, documented now,
given up, or still to come (`Balanced`). One block takes one handler from those to come
(`Balanced.block`), so in the end the handlers are those documented and those whose
splice failed (`Tally`), also where other files are handled at the same time
(`Pool.tallied_run`). A file that cannot be parsed counts for nothing, so the counts of a
run are the sums over all of its files, with or without those that failed (`totalOf_sums`).
-/
import Mathlib.Algebra.BigOperators.Group.List.Basic
import Mathlib.Algebra.Ring.Int.Defs
import RouteDoc.Proofs.Generator.Splices

namespace RouteDoc

open Go Declaration

/-! ## Functions among nodes -/

/-- Whether a node is a function or a method. -/
def Go.Node.isFunction (n : Node) : Bool :=
  match n.kind with
  | .item (.function _) => true
  | _ => false

theorem ofNodesFrom_length (before ns : List Node) : (ofNodesFrom before ns).length = ns.countP Node.isFunction := by
  induction ns generalizing before with
  | nil => rfl
  | cons n ns ih =>
    cases hkind : n.kind with
    | comment text => simp [ofNodesFrom, Node.isFunction, hkind, ih]
    | item x => cases x <;> simp [ofNodesFrom, Node.isFunction, hkind, ih]

namespace Generator

/-! ## One block -/

/-- How many splices failed. -/
def failures (outcomes : List (Except Failure Workspace)) : Nat :=
  outcomes.countP fun
    | .error _ => true
    | .ok _ => false

theorem failures_append (xs ys : List (Except Failure Workspace)) : failures (xs ++ ys) = failures xs + failures ys :=
  List.countP_append

/-- The counts of a file with these functions, of which some splices have failed and some handlers are left. -/
structure Balanced (ds : List Declaration) (failed left : Nat) (c : Counts) : Prop where
  total : c.total = ds.length
  handlers : c.handlers = ds.countP isHandler
  already : c.alreadyDocumented = ds.countP fun d => isHandler d && isDocumented d
  balance : c.alreadyDocumented + c.newlyDocumented + failed + left = c.handlers

theorem balanced_countsOf (ds : List Declaration) : Balanced ds 0 (pendingOf ds).length (countsOf ds) where
  total := rfl
  handlers := by
    simp only [countsOf, handlers_eq, List.length_map, List.countP_eq_length_filter]
  already := by
    simp only [countsOf, handlers_eq, ← List.countP_eq_length_filter, List.countP_map, List.countP_filter]
    exact congrArg _ (List.countP_congr fun d _ => by simp [and_comm])
  balance := by
    have hparts := List.length_eq_length_filter_add (l := ds.filterMap Handler.of?) (·.documented)
    simp only [countsOf, pendingOf]
    omega

variable {g : Generator} {path : String} {s s' : Session} {ds : List Declaration} {failed left : Nat}

/-- A block is counted unless its splice fails, whatever it fails with. -/
theorem writeBlock_counts (g : Generator) (path : String) (file : Option String) (a : Annotated) (r : FileResult)
    (s : Session) :
    (failures (g.splice? path a s).toList = 1 ∧ (g.writeBlock path file a r s).1.counts = r.counts) ∨
      failures (g.splice? path a s).toList = 0 ∧ (g.writeBlock path file a r s).1.counts = oneMore r.counts := by
  unfold splice? writeBlock
  by_cases hdry : g.settings.dryRun = true
  · simp [hdry, failures]
  · simp only [hdry, Bool.false_eq_true, if_false]
    cases s.workspace.document path a.handler.declaration a.block (g.refusal path a.handler.declaration) with
    | error failure =>
      refine .inl ⟨rfl, ?_⟩
      dsimp only
      split <;> rfl
    | ok w => exact .inr ⟨rfl, rfl⟩

/-- **One block** takes one handler from those that are left. -/
theorem Balanced.block {r : FileResult} (h : Balanced ds failed (left + 1) r.counts) (g : Generator) (path : String)
    (file : Option String) (a : Annotated) (s : Session) :
    Balanced ds (failed + failures (g.splice? path a s).toList) left (g.writeBlock path file a r s).1.counts := by
  have hbalance := h.balance
  push_cast at hbalance
  rcases g.writeBlock_counts path file a r s with ⟨hfailures, hcounts⟩ | ⟨hfailures, hcounts⟩
  · rw [hcounts, hfailures]
    refine ⟨h.total, h.handlers, h.already, ?_⟩
    push_cast
    omega
  · rw [hcounts, hfailures]
    refine ⟨h.total, h.handlers, h.already, ?_⟩
    simp only [oneMore]
    omega

/-- All blocks take all handlers, unless one of them breaks it off. -/
theorem Balanced.blocks {hs : List Handler} {r : FileResult} (h : Balanced ds failed hs.length r.counts)
    (g : Generator) (path : String) (file : Option String) (s : Session) :
    ∃ left, Balanced ds (failed + failures (g.splices path file hs r s)) left
        (g.writeBlocks path file hs r s).1.counts ∧
      ((g.writeBlocks path file hs r s).1.raised = none → left = 0) := by
  induction hs generalizing r s failed with
  | nil => exact ⟨0, h, fun _ => rfl⟩
  | cons x hs ih =>
    rw [List.length_cons] at h
    have hblock := h.block g path file (g.annotate file x s).1 (g.annotate file x s).2
    rw [writeBlocks_cons, splices]
    dsimp only
    rw [failures_append, ← Nat.add_assoc]
    split
    · rename_i hraised
      refine ⟨hs.length, hblock, fun hnone => ?_⟩
      rw [hnone] at hraised
      cases hraised
    · exact ih hblock _

/-! ## One file -/

/-- The functions of a source, where there is one. -/
def functionsOf (found : Except Failure Source) : Option (List Declaration) := found.toOption.map Source.declarations

/-- What is said about a file, by the functions it has; there are none where it cannot be parsed. -/
def Tally (failed left : Nat) (r : FileResult) : Option (List Declaration) → Prop
  | none => r.ok = false ∧ r.counts = {} ∧ failed = 0 ∧ left = 0
  | some ds => r.ok = true ∧ Balanced ds failed left r.counts

/-- What is said about a file in the end: no handler is left, unless its handling was broken off. -/
def Ends (failed : Nat) (r : FileResult) (found : Option (List Declaration)) : Prop :=
  ∃ left, Tally failed left r found ∧ (r.raised = none → left = 0)

theorem Tally.block {r : FileResult} {found : Option (List Declaration)} (h : Tally failed (left + 1) r found)
    (g : Generator) (path : String) (file : Option String) (a : Annotated) (s : Session) :
    Tally (failed + failures (g.splice? path a s).toList) left (g.writeBlock path file a r s).1 found := by
  cases found with
  | none => exact absurd h.2.2.2 (Nat.succ_ne_zero _)
  | some ds =>
    obtain ⟨hok, hbalanced⟩ := h
    refine ⟨?_, hbalanced.block g path file a s⟩
    unfold FileResult.ok at hok ⊢
    rw [(g.writeBlock_result path file a r s).2]
    exact hok

theorem writeBlocks_failure (g : Generator) (path : String) (file : Option String) (hs : List Handler)
    (r : FileResult) (s : Session) : (g.writeBlocks path file hs r s).1.failure = r.failure := by
  induction hs generalizing r s with
  | nil => rfl
  | cons h hs ih =>
    have hblock := (g.writeBlock_result path file (g.annotate file h s).1 r (g.annotate file h s).2).2
    rw [writeBlocks_cons]
    dsimp only
    split
    · exact hblock
    · exact (ih _ _).trans hblock

theorem processFile_tally (g : Generator) (path : String) (s : Session) :
    Ends (failures (g.fileSplices path s)) (g.processFile path s).1
      (functionsOf (s.source (some (PathText.base path)) path).1) := by
  cases hsource : s.source (some (PathText.base path)) path with
  | mk found s' =>
    simp only [processFile, fileSplices, collect, hsource]
    cases found with
    | error failure => exact ⟨0, ⟨rfl, rfl, rfl, rfl⟩, fun _ => rfl⟩
    | ok source =>
      have hstart := balanced_countsOf source.declarations
      rw [← List.length_reverse] at hstart
      obtain ⟨left, hblocks, hleft⟩ := @Balanced.blocks _ _ _ ⟨path, countsOf source.declarations, none, [], none⟩
        hstart g path (some (PathText.base path))
        ((documentedNotes (some (PathText.base path)) source.declarations).foldl Session.note s')
      rw [Nat.zero_add] at hblocks
      refine ⟨left, ⟨?_, hblocks⟩, hleft⟩
      rw [FileResult.ok, writeBlocks_failure]
      rfl

/-! ## Tasks side by side -/

/-- The counts of a task are in balance, with the handlers that it has still to write. -/
def Tallied (found : Option (List Declaration)) (failed : Nat) : Task → Prop
  | .waiting => failed = 0
  | .asking hs r => Tally failed hs.length r found
  | .listing _ hs r _ | .searching _ hs r _ _ | .answering _ hs r _ | .writing _ hs r =>
    Tally failed (hs.length + 1) r found
  | .done r => Ends failed r found

/-- **One step** of a task keeps the balance. -/
theorem Moves.tallied {t t' : Task} {found : Option (List Declaration)} (h : g.Moves path t s t' s')
    (hread : t = .waiting → functionsOf (s.source (some (PathText.base path)) path).1 = found)
    (ht : Tallied found failed t) : Tallied found (failed + failures (t.splice? g path s).toList) t' := by
  cases h with
  | failed n hsource =>
    obtain rfl : failed = 0 := ht
    rw [← hread rfl, hsource]
    exact ⟨0, ⟨rfl, rfl, rfl, rfl⟩, fun _ => rfl⟩
  | @picked _ _ source ns hsource =>
    obtain rfl : failed = 0 := ht
    rw [← hread rfl, hsource]
    refine ⟨rfl, ?_⟩
    have hstart := balanced_countsOf source.declarations
    rwa [← List.length_reverse] at hstart
  | @wrote _ _ a _ r _ hwritten _ =>
    have hblock := Tally.block ht g path (some (PathText.base path)) a s
    rwa [hwritten] at hblock
  | @broke _ _ a _ r _ hwritten hraised =>
    have hblock := Tally.block ht g path (some (PathText.base path)) a s
    rw [hwritten] at hblock
    refine ⟨_, hblock, fun hnone => ?_⟩
    rw [hnone] at hraised
    cases hraised
  | ended => exact ⟨0, ht, fun _ => rfl⟩
  | known _ | unnamed _ _ | named _ _ | listed | exhausted _ | skipped _ _ | missed _ _ | found _ _
  | overtaken _ | answered _ | rests => exact ht

end Generator

namespace Pool

variable {g : Generator} {w : Workspace} {files : List String} {p : Pool}

/-- A task that waits among handler files reads what was there at first. -/
theorem Course.functionsOf_source {s₀ : Session} (hw : s₀.workspace.Sound) (hapart : Generator.Apart s₀ files)
    (h : p.Course g s₀.workspace files) {path : String} (hmem : (path, Task.waiting) ∈ p.tasks) :
    Generator.functionsOf (p.session.source (some (PathText.base path)) path).1 =
      Generator.functionsOf (Source.load s₀.workspace path) := by
  obtain ⟨q, bytes, hq, hbytes⟩ := hapart.found path (h.paths ▸ List.mem_map_of_mem hmem)
  have hsource := (h.follows _ hmem).source hw h.alike hq hbytes (some (PathText.base path))
  obtain ⟨_, _, hnow, hload⟩ | ⟨source, source', hnow, hload, hsame⟩ := hsource
  · rw [hnow, hload]
    rfl
  · rw [hnow, hload]
    exact congrArg some hsame

/-- **Every schedule** keeps the balance of every task. -/
theorem tallied_run {s₀ : Session} (hw : s₀.workspace.Sound) (hapart : Generator.Apart s₀ files)
    (h : p.Course g s₀.workspace files) {i : Nat} {path : String} {t : Task} (hget : p.tasks[i]? = some (path, t))
    {failed : Nat} (ht : Generator.Tallied (Generator.functionsOf (Source.load s₀.workspace path)) failed t)
    (schedule : List Nat) :
    ∃ t', (p.run g schedule).tasks[i]? = some (path, t') ∧
      Generator.Tallied (Generator.functionsOf (Source.load s₀.workspace path))
        (failed + Generator.failures (p.splices g i schedule)) t' := by
  induction schedule generalizing p t failed with
  | nil => exact ⟨t, hget, ht⟩
  | cons j schedule ih =>
    have hstep := getElem?_step g p i j
    rw [splices, Generator.failures_append, ← Nat.add_assoc]
    by_cases hij : j = i
    · rw [if_pos hij.symm, hget, Option.map_some] at hstep
      rw [if_pos hij, hget, Option.bind_some]
      refine ih (h.step hw hapart j) hstep ((g.step_moves path t p.session).tallied (fun hwaiting => ?_) ht)
      exact h.functionsOf_source hw hapart (hwaiting ▸ List.mem_of_getElem? hget)
    · rw [if_neg (Ne.symm hij)] at hstep
      rw [if_neg hij]
      exact ih (h.step hw hapart j) (hstep.trans hget) ht

/-- What is said about a file that is done among others. -/
theorem tally_done {s₀ : Session} (hw : s₀.workspace.Sound) (hapart : Generator.Apart s₀ files) (schedule : List Nat)
    (i : Nat) (path : String) (r : FileResult)
    (hget : ((start files s₀).run g schedule).tasks[i]? = some (path, .done r)) :
    Generator.Ends (Generator.failures ((start files s₀).splices g i schedule)) r
      (Generator.functionsOf (Source.load s₀.workspace path)) := by
  have hcourse : (start files s₀).Course g s₀.workspace files := course_start hapart
  have hpaths := (hcourse.run hw hapart schedule).paths.trans hcourse.paths.symm
  have hstart : (start files s₀).tasks[i]? = some (path, .waiting) := by
    have hpath := congrArg (fun paths => paths[i]?) hpaths
    simp only [List.getElem?_map, hget] at hpath
    obtain ⟨x, hx, hfst⟩ := Option.map_eq_some_iff.1 hpath.symm
    obtain ⟨f, -, rfl⟩ := List.mem_map.1 (List.mem_of_getElem? hx)
    obtain rfl : f = path := hfst
    exact hx
  obtain ⟨t', ht', htallied⟩ := tallied_run hw hapart hcourse hstart rfl schedule
  obtain rfl : t' = .done r := (Prod.mk.inj (Option.some.inj (ht'.symm.trans hget))).2
  rwa [Nat.zero_add] at htallied

theorem splices_dry (hdry : g.settings.dryRun = true) (i : Nat) (schedule : List Nat) (p : Pool) :
    p.splices g i schedule = [] := by
  induction schedule generalizing p with
  | nil => rfl
  | cons j schedule ih =>
    have hnone : (p.tasks[i]?.bind fun x => x.2.splice? g x.1 p.session) = none := by
      rw [Option.bind_eq_none_iff]
      intro x _
      cases x.2 with
      | writing a hs r => exact Generator.splice?_dry hdry a
      | waiting | asking _ _ | listing _ _ _ _ | searching _ _ _ _ _ | answering _ _ _ _ | done _ => rfl
    rw [splices, hnone, ih]
    simp

end Pool

/-! ## All files -/

/-- The counts are the sums of those of results. -/
structure Counts.SumOf (c : Counts) (rs : List FileResult) : Prop where
  total : c.total = (rs.map fun r => r.counts.total).sum
  handlers : c.handlers = (rs.map fun r => r.counts.handlers).sum
  already : c.alreadyDocumented = (rs.map fun r => r.counts.alreadyDocumented).sum
  newly : c.newlyDocumented = (rs.map fun r => r.counts.newlyDocumented).sum

theorem Counts.SumOf.perm {c : Counts} {rs rs' : List FileResult} (h : c.SumOf rs) (hperm : rs'.Perm rs) :
    c.SumOf rs' where
  total := h.total.trans (hperm.map _).sum_eq.symm
  handlers := h.handlers.trans (hperm.map _).sum_eq.symm
  already := h.already.trans (hperm.map _).sum_eq.symm
  newly := h.newly.trans (hperm.map _).sum_eq.symm

/-- No more is documented than there are handlers, and no more are handlers than there are functions. -/
def Counts.Ordered (c : Counts) : Prop := c.documented ≤ c.handlers ∧ c.handlers ≤ c.total

namespace Generator

variable {g : Generator} {rs : List FileResult} {r : FileResult} {failed left : Nat} {found : Option (List Declaration)}

theorem Ends.tally (h : Ends failed r found) (hraised : r.raised = none) : Tally failed 0 r found := by
  obtain ⟨left, htally, hleft⟩ := h
  rwa [hleft hraised] at htally

theorem Tally.ordered (h : Tally failed left r found) : r.counts.Ordered := by
  cases found with
  | none =>
    rw [Counts.Ordered, h.2.1]
    decide
  | some ds =>
    obtain ⟨-, hbalanced⟩ := h
    have hbalance := hbalanced.balance
    have hle := List.countP_le_length (p := isHandler) (l := ds)
    refine ⟨?_, ?_⟩
    · rw [Counts.documented]
      omega
    · rw [hbalanced.handlers, hbalanced.total]
      omega

theorem Ends.ordered (h : Ends failed r found) : r.counts.Ordered := by
  obtain ⟨left, htally, -⟩ := h
  exact htally.ordered

theorem Tally.nothing (h : Tally failed left r found) (hok : r.ok = false) : r.counts = {} := by
  cases found with
  | none => exact h.2.1
  | some ds => rw [h.1] at hok; cases hok

/-- The files that failed count for nothing, so it does not matter that they are left out. -/
theorem totalOf_sums (hrs : ∀ r ∈ rs, r.ok = false → r.counts = {}) : (totalOf rs).SumOf rs := by
  have hfold : ∀ c : Counts, (rs.filter FileResult.ok).foldl (fun c r => c + r.counts) c =
      ⟨c.total + (rs.map fun r => r.counts.total).sum, c.handlers + (rs.map fun r => r.counts.handlers).sum,
        c.alreadyDocumented + (rs.map fun r => r.counts.alreadyDocumented).sum,
        c.newlyDocumented + (rs.map fun r => r.counts.newlyDocumented).sum⟩ := by
    induction rs with
    | nil => simp
    | cons r rs ih =>
      intro c
      obtain ⟨hr, hrs⟩ := List.forall_mem_cons.1 hrs
      cases hok : r.ok with
      | true =>
        rw [List.filter_cons_of_pos hok, List.foldl_cons, ih hrs]
        simp only [List.map_cons, List.sum_cons, ← Int.add_assoc]
        rfl
      | false =>
        rw [List.filter_cons_of_neg (by simp [hok]), ih hrs]
        simp only [List.map_cons, List.sum_cons, hr hok, Int.zero_add]
  have htotal := hfold {}
  simp only [Int.zero_add] at htotal
  rw [← totalOf] at htotal
  exact ⟨by rw [htotal], by rw [htotal], by rw [htotal], by rw [htotal]⟩

theorem totalOf_ordered (hrs : ∀ r ∈ rs, r.counts.Ordered) : (totalOf rs).Ordered := by
  unfold totalOf
  refine List.foldlRecOn _ _ ⟨by decide, by decide⟩ fun c hc r hr => ?_
  obtain ⟨hdocumented, hhandlers⟩ := hrs r (List.mem_of_mem_filter hr)
  obtain ⟨hc, hc'⟩ := hc
  have hadd : c + r.counts = c.add r.counts := rfl
  simp only [Counts.Ordered, Counts.documented, hadd, Counts.add] at hdocumented hhandlers hc hc' ⊢
  omega

/-- The counts of files are those of all of them, in any order. -/
theorem totalOf_tallied (hrs : ∀ r ∈ rs, ∃ failed found, Ends failed r found) :
    (∀ rs', rs'.Perm rs → (totalOf rs).SumOf rs') ∧ (totalOf rs).Ordered := by
  have hsums : (totalOf rs).SumOf rs := by
    refine totalOf_sums fun r hr hok => ?_
    obtain ⟨failed, found, left, htally, -⟩ := hrs r hr
    exact htally.nothing hok
  refine ⟨fun rs' hperm => hsums.perm hperm, totalOf_ordered fun r hr => ?_⟩
  obtain ⟨failed, found, hends⟩ := hrs r hr
  exact hends.ordered

theorem processFiles_tallied (g : Generator) (files : List String) (s : Session) :
    ∀ r ∈ (g.processFiles files s).1, ∃ failed found, Ends failed r found := by
  induction files generalizing s with
  | nil => exact fun _ hr => nomatch hr
  | cons f files ih => exact List.forall_mem_cons.2 ⟨⟨_, _, g.processFile_tally f s⟩, ih _⟩

/-- **Counters balance.** The counts of a file are those of its functions, handlers and documented handlers, and the
handlers are those documented before, those documented now and those whose splice failed, unless the handling of the
file was broken off; a file that cannot be parsed has no counts, and in a rehearsal no splice fails. The counts of a
run are the sums over its results, in any order and with those that failed. Files handled side by side have the counts
of the tree they were found in, and the same sums. -/
theorem counts_balance (g : Generator) :
    (∀ source : Source, source.declarations.length = source.nodes.countP Node.isFunction) ∧
    (∀ path s, ((g.processFile path s).1.raised = none →
        Tally (failures (g.fileSplices path s)) 0 (g.processFile path s).1
          (functionsOf (s.source (some (PathText.base path)) path).1)) ∧
      (g.processFile path s).1.counts.Ordered ∧ (g.settings.dryRun = true → g.fileSplices path s = [])) ∧
    (∀ s report s', g.run s = (.ok report, s') →
      (∀ rs, rs.Perm report.results → report.total.SumOf rs) ∧ report.total.Ordered) ∧
    ∀ w dir pattern files, w.Sound → Discovery.handlerFiles w dir pattern = .ok files →
      ∀ schedule, let p := (Pool.start files (.start w)).run g schedule
        (∀ (i : Nat) path r, p.tasks[i]? = some (path, .done r) → r.raised = none →
          Tally (failures ((Pool.start files (.start w)).splices g i schedule)) 0 r
            (functionsOf (Source.load w path))) ∧
        (g.settings.dryRun = true → ∀ i, (Pool.start files (.start w)).splices g i schedule = []) ∧
        (∀ rs, rs.Perm p.results → (totalOf p.results).SumOf rs) ∧ (totalOf p.results).Ordered := by
  refine ⟨fun source => ofNodesFrom_length [] source.nodes, fun path s => ?_, fun s report s' hrun => ?_, ?_⟩
  · have hends := g.processFile_tally path s
    exact ⟨hends.tally, hends.ordered, fun hdry => fileSplices_dry hdry⟩
  · obtain ⟨files, hfiles, hne⟩ := g.run_files hrun
    obtain ⟨notes, s₁, hrun', -⟩ := g.run_eq hfiles hne
    rw [hrun] at hrun'
    obtain ⟨-, rfl⟩ := verdict_eq_ok_iff.1 (congrArg Prod.fst hrun').symm
    exact totalOf_tallied (g.processFiles_tallied files _)
  · intro w dir pattern files hw hfiles schedule p
    have hapart := apart_start hw hfiles []
    have hdone := Pool.tally_done (g := g) hw hapart schedule
    refine ⟨fun i path r hget => (hdone i path r hget).tally, fun hdry i => Pool.splices_dry hdry i schedule _,
      totalOf_tallied fun r hr => ?_⟩
    obtain ⟨⟨path, t⟩, hmem, hresult⟩ := List.mem_filterMap.1 hr
    obtain ⟨i, hget⟩ := List.mem_iff_getElem?.1 hmem
    cases t with
    | done r' =>
      obtain rfl := Option.some.inj hresult
      exact ⟨_, _, hdone i path r' hget⟩
    | waiting | asking _ _ | listing _ _ _ _ | searching _ _ _ _ _ | answering _ _ _ _ | writing _ _ _ => cases hresult

/-- Nothing keeps the blocks of the two handlers from having bytes. -/
theorem processFile_twoHandlers (notes : List Note) :
    (takesFirst.processFile "./a.go" { Session.start (oneFile twoHandlers) with notes }).1.raised = none := by
  obtain ⟨nodes, hnodes, -, -, hnames, -⟩ := nodes?_twoHandlers
  have hscalar : ∀ name ∈ ["A", "B"], takesFirst.ScalarRoute name := by decide +kernel
  have hread : (oneFile twoHandlers).read "./a.go" = .ok twoHandlers :=
    Workspace.read_eq_ok_iff.2 ⟨_, locate_oneFile twoHandlers, rfl⟩
  refine (takesFirst.processFile_raised_iff (s := { Session.start (oneFile twoHandlers) with notes }) rfl
    (oneFile_sound twoHandlers) hread (fun _ hkept => nomatch hkept) hnodes).2 fun h hh _ => ?_
  exact hscalar h.name (hnames ▸ List.mem_map_of_mem hh)

/-- Of two handlers that are not documented, those that were written and those that were refused are two. -/
theorem counts_balance_twoHandlers :
    (∃ report s', takesFirst.run (.start (oneFile twoHandlers)) = (.ok report, s') ∧
      report.total.SumOf report.results ∧ report.total.Ordered) ∧
    ∃ schedule r, let p := Pool.start ["./a.go"] (.start (oneFile twoHandlers))
      (p.run takesFirst schedule).tasks[0]? = some ("./a.go", .done r) ∧ r.counts.handlers = 2 ∧
        r.counts.newlyDocumented + (failures (p.splices takesFirst 0 schedule) : Int) = 2 := by
  have hfiles := handlerFiles_oneFile twoHandlers
  obtain ⟨-, -, hruns, hpools⟩ := takesFirst.counts_balance
  constructor
  · obtain ⟨notes, s', hrun, -⟩ := takesFirst.run_singleton (s := .start (oneFile twoHandlers)) hfiles
      processFile_twoHandlers
    obtain ⟨hsums, hordered⟩ := hruns _ _ _ hrun
    exact ⟨_, s', hrun, hsums _ (.refl _), hordered⟩
  · obtain ⟨nodes, hnodes, hfunctions, -⟩ := nodes?_twoHandlers
    have hhandlers : (ofNodes nodes).countP isHandler = 2 := by
      have hcount := congrArg (List.countP fun x => x.2.2.1) hfunctions
      rwa [List.countP_map] at hcount
    have halready : (ofNodes nodes).countP (fun d => isHandler d && isDocumented d) = 0 := by
      have hcount := congrArg (List.countP fun x => x.2.2.1 && x.2.2.2) hfunctions
      rwa [List.countP_map] at hcount
    have hload : functionsOf (Source.load (oneFile twoHandlers) "./a.go") = some (ofNodes nodes) := by
      rw [load_found (locate_oneFile twoHandlers) rfl, hnodes]
      rfl
    obtain ⟨schedule, hrun⟩ := Pool.run_alone (takesFirst.leads_processFile "./a.go" (.start (oneFile twoHandlers))) [] []
    have hget := congrArg (fun p : Pool => p.tasks[0]?) hrun
    have htally := (hpools _ _ _ _ (oneFile_sound twoHandlers) hfiles schedule).1 0 _ _ hget
      (processFile_twoHandlers [])
    rw [hload] at htally
    obtain ⟨-, hbalanced⟩ := htally
    have hbalance := hbalanced.balance
    rw [hbalanced.handlers, hhandlers, hbalanced.already, halready] at hbalance
    refine ⟨schedule, _, hget, ?_, by omega⟩
    rw [hbalanced.handlers, hhandlers]
    rfl

end Generator

end RouteDoc
