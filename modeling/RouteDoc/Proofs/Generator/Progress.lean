/-
How far a file has come.

A task gives up the handlers of its file one after the other. Those behind it are
written, unless the storage has refused them, and what they have changed lies behind
those that are still ahead (`Progress`). A step of the task takes it further
(`Moves.goes`), and a step of another task leaves the file where it is. So whatever
the schedule, a file ends with the blocks of all its handlers, or it is broken off at
the first of them whose block has no bytes (`Ended`), and which of both it is was
settled before anything was read (`Pool.Advance.verdict`).
-/
import RouteDoc.Proofs.Generator.Endings

namespace RouteDoc

open Go

namespace Generator

variable (g : Generator) {w : Workspace} {files : List String} {path : String} {q : Place} {bytes : List UInt8}
  {nodes : List Node} {t t' : Task} {s s' : Session} {a : Annotated} {h : Handler} {hs : List Handler}
  {r r' : FileResult}

/-! ## Blocks in hand -/

/-- A block that was made for a request type that was read off a structure. -/
def Drawn (a : Annotated) : Prop := ∃ h, ∃ type : RequestType, type.Reflected ∧ a = g.annotated h type

/-- What a task has in hand was read off structures. -/
def DrawnBy : Task → Prop
  | .answering _ _ _ type => type.Reflected
  | .writing a _ _ => g.Drawn a
  | _ => True

variable {g}

theorem Drawn.scalar_iff (ha : g.Drawn a) : a.block.Scalar ↔ g.ScalarRoute a.handler.name := by
  obtain ⟨h, type, -, rfl⟩ := ha
  exact DocBlock.scalar_block ..

theorem Drawn.documents (ha : g.Drawn a) (hnodes : nodes? bytes = some nodes)
    (hmem : a.handler ∈ pendingOf (Declaration.ofNodes nodes)) (hclean : g.CleanRoute a.handler.name) :
    ∃ lines, a.edit = a.handler.declaration.edit (commentLines lines) ∧ DocLines lines := by
  obtain ⟨h, type, htype, rfl⟩ := ha
  obtain ⟨lines, hblock, hlines⟩ := g.block_documents hnodes hmem hclean htype.knownKinds
  exact ⟨lines, congrArg h.declaration.edit hblock, hlines⟩

theorem known?_reflected {type : RequestType} (hs : s.Reflects) (hknown : known? s h = some type) : type.Reflected := by
  obtain ⟨e, he, rfl⟩ := Option.map_eq_some_iff.1 hknown
  exact hs e (List.mem_of_find?_eq_some he)

/-- **One step** of a task draws on structures only. -/
theorem Moves.drawn (h : g.Moves path t s t' s') (hs : s.Reflects) (ht : g.DrawnBy t) :
    s'.Reflects ∧ g.DrawnBy t' := by
  cases h with
  | failed n hsource => exact ⟨((source_turns (q := []) hsource).1.note n).reflects hs, trivial⟩
  | picked ns hsource => exact ⟨((source_turns (q := []) hsource).1.notes ns).reflects hs, trivial⟩
  | skipped n hsource => exact ⟨((source_turns (q := []) hsource).1.note n).reflects hs, trivial⟩
  | missed hsource _ => exact ⟨(source_turns (q := []) hsource).1.reflects hs, trivial⟩
  | found hsource htype =>
    exact ⟨(source_turns (q := []) hsource).1.reflects hs, RequestType.reflected_inTypes? htype⟩
  | known hknown | overtaken hknown => exact ⟨hs, _, _, known?_reflected hs hknown, rfl⟩
  | unnamed _ _ | exhausted _ => exact ⟨hs, RequestType.reflected_nil⟩
  | answered _ =>
    refine ⟨fun e he => ?_, _, _, ht, rfl⟩
    rcases List.mem_append.1 he with he | he
    · exact hs e he
    · rw [List.mem_singleton.1 he]
      exact ht
  | @wrote _ _ a _ r _ hwritten | @broke _ _ a _ r _ hwritten =>
    have hanswers := (g.writeBlock_memory path (some (PathText.base path)) a r s).2
    rw [hwritten] at hanswers
    refine ⟨?_, trivial⟩
    unfold Session.Reflects
    rw [hanswers]
    exact hs
  | ended | named _ _ | listed | rests => exact ⟨hs, trivial⟩

variable (g)

/-! ## Handlers behind a task, and ahead of it -/

/-- Whether the block of a handler counts as new: it is only announced, or the storage takes it. -/
def takes (path : String) (h : Handler) : Bool := g.settings.dryRun || g.accepts path h

/-- Whether a handler breaks the handling of its file off. A rehearsal is never broken off. -/
def stops (path : String) (h : Handler) : Bool := !g.settings.dryRun && g.breaks path h

/-- How far a file has come that could be parsed: the handlers `hs` are ahead, and of those behind it the ones
that it takes have their blocks. -/
structure Progress (path : String) (q : Place) (bytes : List UInt8) (nodes : List Node) (s : Session)
    (hs : List Handler) (r : FileResult) : Prop where
  result : r = ⟨path, { countsOf (Declaration.ofNodes nodes) with newlyDocumented := r.annotated.length }, none,
    r.annotated, none⟩
  behind : ∃ front, (pendingOf (Declaration.ofNodes nodes)).reverse = front ++ hs ∧
    (∀ h ∈ front, g.stops path h = false) ∧ r.annotated.map Annotated.handler = front.filter (g.takes path)
  drawn : ∀ a ∈ r.annotated, g.Drawn a
  entry : s.workspace.entryAt q = some (.file
    (if g.settings.dryRun then bytes else applyEdits bytes (r.annotated.map Annotated.edit)))

/-- A file that is done: no handler is ahead, or the next one has broken it off. -/
inductive Ended (path : String) (q : Place) (bytes : List UInt8) (nodes : List Node) (s : Session) (r : FileResult) :
    Prop where
  | whole : g.Progress path q bytes nodes s [] r → Ended path q bytes nodes s r
  | broken {h : Handler} {hs : List Handler} {r₀ : FileResult} {fault : EncodeFault} :
      g.Progress path q bytes nodes s (h :: hs) r₀ → g.stops path h = true →
      r = { r₀ with raised := some (.unencodable fault) } → Ended path q bytes nodes s r

variable {g}

theorem Progress.frame (hp : g.Progress path q bytes nodes s hs r)
    (he : s'.workspace.entryAt q = s.workspace.entryAt q) : g.Progress path q bytes nodes s' hs r :=
  ⟨hp.result, hp.behind, hp.drawn, he.trans hp.entry⟩

theorem Ended.frame (he : g.Ended path q bytes nodes s r) (hsame : s'.workspace.entryAt q = s.workspace.entryAt q) :
    g.Ended path q bytes nodes s' r := by
  cases he with
  | whole hp => exact .whole (hp.frame hsame)
  | broken hp hstops hr => exact .broken (hp.frame hsame) hstops hr

/-- The ranges of the handlers behind lie behind the next handler. -/
theorem Progress.ahead (hp : g.Progress path q bytes nodes s (h :: hs) r) (hnodes : nodes? bytes = some nodes) :
    h.declaration.docStart.offset ≤ h.declaration.start.offset ∧
      h.declaration.start.offset ≤ (applyEdits bytes (r.annotated.map Annotated.edit)).length := by
  obtain ⟨front, hsplit, -, hhandlers⟩ := hp.behind
  obtain ⟨hle, hlen, horder⟩ := pending_ordered hnodes
  rw [← List.pairwise_reverse, hsplit, List.pairwise_append] at horder
  have hmem : h ∈ pendingOf (Declaration.ofNodes nodes) := by
    rw [← List.mem_reverse, hsplit]
    exact List.mem_append_right _ List.mem_cons_self
  refine ⟨hle h hmem, le_length_applyEdits (hlen h hmem) fun e he => ?_⟩
  obtain ⟨a, ha, rfl⟩ := List.mem_map.1 he
  have hfront : a.handler ∈ front.filter (g.takes path) := hhandlers ▸ List.mem_map_of_mem ha
  exact horder.2.2 a.handler (List.mem_of_mem_filter hfront) h List.mem_cons_self

/-- A handler whose block is not taken is passed over. -/
theorem Progress.pass (hp : g.Progress path q bytes nodes s (h :: hs) r) (hstops : g.stops path h = false)
    (htakes : g.takes path h = false) (he : s'.workspace.entryAt q = s.workspace.entryAt q) :
    g.Progress path q bytes nodes s' hs r := by
  obtain ⟨front, hsplit, hfront, hhandlers⟩ := hp.behind
  refine ⟨hp.result, ⟨front ++ [h], ?_, ?_, ?_⟩, hp.drawn, he.trans hp.entry⟩
  · rw [hsplit, List.append_assoc, List.singleton_append]
  · simpa [or_imp, forall_and] using ⟨hfront, hstops⟩
  · rw [List.filter_append, List.filter_cons_of_neg (by simp [htakes]), List.filter_nil, List.append_nil, hhandlers]

/-- A handler whose block is taken has its block. -/
theorem Progress.take (hp : g.Progress path q bytes nodes s (a.handler :: hs) r) (ha : g.Drawn a)
    (hstops : g.stops path a.handler = false) (htakes : g.takes path a.handler = true)
    (he : s'.workspace.entryAt q = some (.file
      (if g.settings.dryRun then bytes else applyEdits bytes ((r.annotated ++ [a]).map Annotated.edit)))) :
    g.Progress path q bytes nodes s' hs { r with counts := oneMore r.counts, annotated := r.annotated ++ [a] } := by
  obtain ⟨front, hsplit, hfront, hhandlers⟩ := hp.behind
  refine ⟨?_, ⟨front ++ [a.handler], ?_, ?_, ?_⟩, ?_, he⟩
  · rw [hp.result]
    simp [oneMore]
  · rw [hsplit, List.append_assoc, List.singleton_append]
  · simpa [or_imp, forall_and] using ⟨hfront, hstops⟩
  · rw [List.map_append, hhandlers, List.filter_append, List.filter_cons_of_pos htakes, List.filter_nil,
      List.map_singleton]
  · simpa [or_imp, forall_and] using ⟨hp.drawn, ha⟩

/-- **One block** takes a file further, or breaks it off. -/
theorem Progress.write (hp : g.Progress path q bytes nodes s (a.handler :: hs) r) (hnodes : nodes? bytes = some nodes)
    (ha : g.Drawn a) (hq : s.workspace.locate path = .ok q) {file : Option String}
    (hwritten : g.writeBlock path file a r s = (r', s')) :
    r'.raised = none ∧ g.Progress path q bytes nodes s' hs r' ∨
      r'.raised.isSome = true ∧ g.Ended path q bytes nodes s' r' := by
  have hraised : r.raised = none := by rw [hp.result]
  cases hdry : g.settings.dryRun with
  | true =>
    have hstops : g.stops path a.handler = false := by rw [stops, hdry]; rfl
    have htakes : g.takes path a.handler = true := by rw [takes, hdry]; rfl
    have hentry := hp.entry
    unfold writeBlock at hwritten
    simp only [hdry, if_true, Prod.mk.injEq] at hwritten hentry
    obtain ⟨rfl, rfl⟩ := hwritten
    refine .inl ⟨hraised, hp.take ha hstops htakes ?_⟩
    rw [hdry, if_pos rfl]
    exact hentry
  | false =>
    have hentry := hp.entry
    rw [hdry, if_neg (by simp)] at hentry
    obtain ⟨hle, hlen⟩ := hp.ahead hnodes
    have hcases := g.writeBlock_cases hdry hq hentry file a r hle hlen
    rw [hwritten, ha.scalar_iff] at hcases
    have hstops : g.stops path a.handler = g.breaks path a.handler := by rw [stops, hdry]; rfl
    have htakes : g.takes path a.handler = g.accepts path a.handler := by rw [takes, hdry]; rfl
    rcases hcases with ⟨haccept, rfl, hworkspace⟩ | ⟨haccept, hscalar, rfl, hworkspace⟩ | ⟨haccept, hscalar, fault, hr⟩
    · dsimp only at hworkspace
      refine .inl ⟨hraised, hp.pass ?_ (by rw [htakes, haccept]) (by rw [hworkspace])⟩
      rw [hstops, breaks, haccept, Bool.false_and]
    · dsimp only at hworkspace
      refine .inl ⟨hraised, hp.take ha ?_ (by rw [htakes, haccept]) ?_⟩
      · rw [hstops, breaks, haccept, decide_eq_true hscalar]
        rfl
      · rw [hworkspace, hdry, if_neg (by simp), applyEdits_concat]
        exact Workspace.entryAt_put_self hentry _
    · obtain ⟨rfl, rfl⟩ := Prod.mk.inj hr
      refine .inr ⟨rfl, .broken hp ?_ rfl⟩
      rw [hstops, breaks, haccept, decide_eq_false hscalar]
      rfl

variable (g)

/-! ## Steps -/

/-- How far the task for a file has come that could be parsed. -/
def Goes (path : String) (q : Place) (bytes : List UInt8) (nodes : List Node) (s : Session) : Task → Prop
  | .waiting => True
  | .asking hs r => g.Progress path q bytes nodes s hs r
  | .listing h hs r _ | .searching h hs r _ _ | .answering h hs r _ => g.Progress path q bytes nodes s (h :: hs) r
  | .writing a hs r => g.Progress path q bytes nodes s (a.handler :: hs) r
  | .done r => g.Ended path q bytes nodes s r

variable {g}

theorem Goes.frame (h : g.Goes path q bytes nodes s t) (he : s'.workspace.entryAt q = s.workspace.entryAt q) :
    g.Goes path q bytes nodes s' t := by
  cases t with
  | waiting => trivial
  | asking _ _ | listing _ _ _ _ | searching _ _ _ _ _ | answering _ _ _ _ | writing _ _ _ => exact Progress.frame h he
  | done _ => exact Ended.frame h he

/-- **One step** of a task takes its file further. -/
theorem Moves.goes (h : g.Moves path t s t' s') (hw : w.Sound) (halike : w.Alike s.workspace)
    (hq : w.locate path = .ok q) (hbytes : w.entryAt q = some (.file bytes)) (hnodes : nodes? bytes = some nodes)
    (hf : Follows w path s t) (hdrawn : g.DrawnBy t) (ht : g.Goes path q bytes nodes s t) :
    g.Goes path q bytes nodes s' t' := by
  have hload : Source.load w path = .ok ⟨path, bytes, nodes⟩ := by rw [load_found hq hbytes, hnodes]
  have hread : ∀ {p found s₁}, s.source (some (PathText.base path)) p = (found, s₁) →
      s₁.workspace.entryAt q = s.workspace.entryAt q := by
    intro p found s₁ hsource
    rw [(source_turns (q := q) hsource).2]
  cases h with
  | failed n hsource =>
    have hfound := hf.source hw halike hq hbytes (some (PathText.base path))
    rw [hsource, hload] at hfound
    obtain ⟨_, _, -, herror⟩ | ⟨_, _, herror, -⟩ := hfound <;> cases herror
  | @picked _ _ source ns hsource =>
    have hfound := hf.source hw halike hq hbytes (some (PathText.base path))
    rw [hsource, hload] at hfound
    obtain ⟨_, _, -, herror⟩ | ⟨_, _, hok, hok', hsame⟩ := hfound
    · cases herror
    obtain rfl := Except.ok.inj hok
    obtain rfl := Except.ok.inj hok'
    have hdeclarations : source.declarations = Declaration.ofNodes nodes := hsame
    rw [hdeclarations]
    refine ⟨by simp [countsOf], ⟨[], rfl, by simp, rfl⟩, by simp, ?_⟩
    rw [Session.foldl_note_workspace, hread hsource, hf.2 q hq, hbytes]
    simp [applyEdits]
  | skipped _ hsource =>
    have hsame := hread hsource
    exact Progress.frame ht hsame
  | missed hsource _ | found hsource _ => exact Progress.frame ht (hread hsource)
  | ended => exact .whole ht
  | wrote hwritten hraised =>
    obtain ⟨-, hp⟩ | ⟨hsome, -⟩ := Progress.write ht hnodes hdrawn (halike.locate path ▸ hq) hwritten
    · exact hp
    · rw [hraised] at hsome
      cases hsome
  | broke hwritten hraised =>
    obtain ⟨hnone, -⟩ | ⟨-, hended⟩ := Progress.write ht hnodes hdrawn (halike.locate path ▸ hq) hwritten
    · rw [hnone] at hraised
      cases hraised
    · exact hended
  | exhausted _ | answered _ =>
    refine Progress.frame ht ?_
    rfl
  | known _ | unnamed _ _ | named _ _ | listed | overtaken _ | rests => exact ht

end Generator

/-! ## Every schedule -/

namespace Pool

variable {g : Generator} {w : Workspace} {s₀ : Session} {files : List String} {p : Pool}

/-- A pool on its course, and how far its files have come. -/
structure Advance (g : Generator) (w : Workspace) (files : List String) (p : Pool) : Prop where
  course : p.Course g w files
  reflects : p.session.Reflects
  drawn : ∀ x ∈ p.tasks, g.DrawnBy x.2
  goes : ∀ x ∈ p.tasks, ∀ q bytes nodes, w.locate x.1 = .ok q → w.entryAt q = some (.file bytes) →
    nodes? bytes = some nodes → g.Goes x.1 q bytes nodes p.session x.2

theorem advance_start (hapart : Generator.Apart s₀ files) (hs : s₀.Reflects) :
    (start files s₀).Advance g s₀.workspace files := by
  refine ⟨course_start hapart, hs, fun x hx => ?_, fun x hx _ _ _ _ _ _ => ?_⟩
  · obtain ⟨f, -, rfl⟩ := List.mem_map.1 hx
    trivial
  · obtain ⟨f, -, rfl⟩ := List.mem_map.1 hx
    trivial

theorem Advance.step (hw : s₀.workspace.Sound) (hapart : Generator.Apart s₀ files)
    (h : p.Advance g s₀.workspace files) (i : Nat) : (p.step g i).Advance g s₀.workspace files := by
  have hcourse := h.course.step hw hapart i
  unfold Pool.step at hcourse ⊢
  cases hget : p.tasks[i]? with
  | none => exact h
  | some x =>
    obtain ⟨path, t⟩ := x
    rw [hget] at hcourse
    have hmem := List.mem_of_getElem? hget
    obtain ⟨q, bytes, hq, hbytes⟩ := hapart.found path (h.course.paths ▸ List.mem_map_of_mem hmem)
    have halike := h.course.alike
    have hmoves := g.step_moves path t p.session
    obtain ⟨hreflects, hdrawn⟩ := hmoves.drawn h.reflects (h.drawn _ hmem)
    obtain ⟨-, hframe, -⟩ := hmoves.frame (halike.sound hw) (halike.locate path ▸ hq)
    refine ⟨hcourse, hreflects, fun x hx => ?_, fun x hx q' bytes' nodes hq' hbytes' hnodes => ?_⟩
    · rcases List.mem_or_eq_of_mem_set hx with hx | rfl
      · exact h.drawn x hx
      · exact hdrawn
    · rcases mem_set_cases hapart.distinct h.course.paths hget hx with rfl | ⟨hx, hne⟩
      · exact hmoves.goes hw halike hq' hbytes' hnodes (h.course.follows _ hmem) (h.drawn _ hmem)
          (h.goes _ hmem q' bytes' nodes hq' hbytes' hnodes)
      · refine (h.goes x hx q' bytes' nodes hq' hbytes' hnodes).frame (hframe q' ?_)
        rintro rfl
        exact hne (hq'.trans hq.symm)

/-- **Every schedule** takes the files further. -/
theorem Advance.run (hw : s₀.workspace.Sound) (hapart : Generator.Apart s₀ files)
    (h : p.Advance g s₀.workspace files) (schedule : List Nat) : (p.run g schedule).Advance g s₀.workspace files := by
  induction schedule generalizing p with
  | nil => exact h
  | cons i schedule ih => exact ih (h.step hw hapart i)

end Pool

/-! ## What the files come to -/

namespace Generator

variable {g : Generator} {w : Workspace} {path : String} {q : Place} {bytes : List UInt8} {nodes : List Node}
  {s : Session} {r : FileResult}

/-- A file that is not broken off has the blocks of all handlers that count as new. -/
theorem Ended.complete (h : g.Ended path q bytes nodes s r) (hraised : r.raised = none) :
    g.Progress path q bytes nodes s [] r ∧
      r.annotated.map Annotated.handler = ((pendingOf (Declaration.ofNodes nodes)).filter (g.takes path)).reverse := by
  cases h with
  | whole hp =>
    obtain ⟨front, hsplit, -, hhandlers⟩ := hp.behind
    refine ⟨hp, ?_⟩
    rw [hhandlers, ← List.filter_reverse, hsplit, List.append_nil]
  | broken _ _ hr =>
    rw [hr] at hraised
    cases hraised

/-- A file is broken off exactly where it has a handler that stops it, and a text without bytes is the reason. -/
theorem Ended.raised (h : g.Ended path q bytes nodes s r) :
    ∃ why : Option EncodeFault, r.raised = why.map .unencodable ∧
      why.isSome = (pendingOf (Declaration.ofNodes nodes)).any (g.stops path) := by
  rw [← List.any_reverse]
  cases h with
  | whole hp =>
    obtain ⟨front, hsplit, hfront, -⟩ := hp.behind
    refine ⟨none, by rw [hp.result]; rfl, ?_⟩
    rw [hsplit, List.append_nil, eq_comm]
    exact List.any_eq_false.2 fun x hx => by rw [hfront x hx]; simp
  | @broken x hs _ fault hp hstops hr =>
    obtain ⟨front, hsplit, -⟩ := hp.behind
    refine ⟨some fault, by rw [hr]; rfl, ?_⟩
    rw [hsplit, List.any_append, List.any_cons, hstops, Bool.true_or, Bool.or_true]
    rfl

/-- Some handler of the files breaks the handling of its file off. -/
def BreaksOff (g : Generator) (w : Workspace) (files : List String) : Prop :=
  ∃ f ∈ files, ∃ h ∈ pendingAt w f, g.stops f h = true

theorem not_breaksOff {files : List String} (h : ∀ f ∈ files, PendingIn w (fun _ x => g.ScalarRoute x.name) f) :
    ¬g.BreaksOff w files := by
  rintro ⟨f, hf, x, hx, hstops⟩
  obtain ⟨bytes, nodes, hread, hnodes, hmem⟩ := mem_pendingAt.1 hx
  simp [stops, breaks, h f hf bytes nodes hread hnodes x hmem] at hstops

end Generator

namespace Pool

variable {g : Generator} {w : Workspace} {files : List String} {p : Pool} {x : String × Task} {r : FileResult}

/-- The result of a task that is done is that of a file that has ended. -/
theorem Advance.ended (h : p.Advance g w files) (hx : x ∈ p.tasks) (hr : x.2.result? = some r) {q : Place}
    {bytes : List UInt8} {nodes : List Node} (hq : w.locate x.1 = .ok q) (hbytes : w.entryAt q = some (.file bytes))
    (hnodes : nodes? bytes = some nodes) : g.Ended x.1 q bytes nodes p.session r := by
  have hgoes := h.goes x hx q bytes nodes hq hbytes hnodes
  obtain ⟨path, t⟩ := x
  cases t with
  | done r' =>
    obtain rfl := Option.some.inj hr
    exact hgoes
  | waiting | asking _ _ | listing _ _ _ _ | searching _ _ _ _ _ | answering _ _ _ _ | writing _ _ _ => cases hr

section

variable (hfound : ∀ f ∈ files, ∃ q bytes, w.locate f = .ok q ∧ w.entryAt q = some (.file bytes))
include hfound

theorem Advance.raised (h : p.Advance g w files) (hx : x ∈ p.tasks) (hr : x.2.result? = some r) :
    ∃ why : Option EncodeFault, r.raised = why.map .unencodable ∧
      why.isSome = (Generator.pendingAt w x.1).any (g.stops x.1) := by
  obtain ⟨q, bytes, hq, hbytes⟩ := hfound x.1 (h.course.paths ▸ List.mem_map_of_mem hx)
  have hload := Generator.load_found hq hbytes
  unfold Generator.pendingAt
  cases hnodes : nodes? bytes with
  | none =>
    have hreported := h.course.reported hx hr
    rw [hnodes] at hload
    rw [hload]
    exact ⟨none, hreported.raised (hreported.failure.2 ⟨_, hload⟩), rfl⟩
  | some nodes =>
    rw [hnodes] at hload
    rw [hload]
    exact (h.ended hx hr hq hbytes hnodes).raised

/-- **How a pool that is done ends**: with a report, unless a handler breaks the handling of its file off. That does
not depend on the schedule. -/
theorem Advance.verdict (h : p.Advance g w files) (hdone : p.Finished) :
    g.BreaksOff w files ∧ (∃ fault, Generator.verdict p.results = .error (.unencodable fault)) ∨
      ¬g.BreaksOff w files ∧ Generator.verdict p.results = .ok ⟨Generator.totalOf p.results, p.results⟩ := by
  cases hverdict : Generator.verdict p.results with
  | error failure =>
    obtain ⟨r, hr, hraised⟩ := Generator.verdict_error hverdict
    obtain ⟨x, hx, hresult⟩ := List.mem_filterMap.1 hr
    obtain ⟨why, hwhy, hany⟩ := h.raised hfound hx hresult
    rw [hraised] at hwhy
    obtain ⟨fault, rfl, hfault⟩ := Option.map_eq_some_iff.1 hwhy.symm
    obtain ⟨y, hy, hstops⟩ := List.any_eq_true.1 hany.symm
    exact .inl ⟨⟨x.1, h.course.paths ▸ List.mem_map_of_mem hx, y, hy, hstops⟩, fault, by rw [hfault]⟩
  | ok report =>
    obtain ⟨hnone, rfl⟩ := Generator.verdict_eq_ok_iff.1 hverdict
    refine .inr ⟨?_, rfl⟩
    rintro ⟨f, hf, y, hy, hstops⟩
    rw [← h.course.paths] at hf
    obtain ⟨x, hx, rfl⟩ := List.mem_map.1 hf
    obtain ⟨r, hr⟩ := Option.isSome_iff_exists.1 (hdone x hx)
    obtain ⟨why, hwhy, hany⟩ := h.raised hfound hx hr
    rw [hnone r (List.mem_filterMap.2 ⟨x, hx, hr⟩)] at hwhy
    rw [List.any_eq_true.2 ⟨y, hy, hstops⟩] at hany
    obtain rfl := Option.map_eq_none_iff.1 hwhy.symm
    cases hany

end

end Pool

end RouteDoc
