/-
Handling one file.

The blocks of a file are written from the last handler to the first, each at the
place where the one reading of the file found its function. What a block changes
lies behind all that is still to be written, so in the end every block stands
where its function was found and every other byte is where it was
(`processFile_splices`). A block that the storage refuses leaves its range alone,
and one that has no bytes breaks the handling of the file off
(`processFile_raised_iff`).
-/
import Mathlib.Data.List.TakeWhile
import RouteDoc.Proofs.Generator.Blocks
import RouteDoc.Proofs.Splicing.Replacing

namespace RouteDoc

open Go

/-! ## One splice -/

namespace Workspace

variable {w : Workspace} {path : String} {q : Place} {bytes : List UInt8} {d : Declaration}

section

variable (hq : w.locate path = .ok q) (hbytes : w.entryAt q = some (.file bytes))
  (hle : d.docStart.offset ≤ d.start.offset)
include hq hbytes hle

theorem document_eq (hlen : d.start.offset ≤ bytes.length) (block : CodeText) : w.document path d block none =
    match block.encode with
    | .error fault => .error (.unencodable fault)
    | .ok encoded => .ok (w.put q (.file (replaceRange bytes d.docStart.offset d.start.offset encoded))) := by
  have hread : w.read path = .ok bytes := read_eq_ok_iff.2 ⟨q, hq, hbytes⟩
  have hnear : ¬ Storage.TooFar bytes.length d.start.offset := fun hfar => absurd hlen (Nat.not_le.2 hfar.1)
  rw [document, splice_eq, if_neg (by simpa using hle)]
  simp only [hq, hread, Int.toNat_natCast]
  rw [if_neg (by omega)]
  cases block.encode with
  | error fault => rfl
  | ok encoded => simp only [if_neg hnear]

theorem document_refused (block : CodeText) (reason : String) :
    w.document path d block (some reason) = .error (.splice path (spliceName d.name) reason) := by
  have hread : w.read path = .ok bytes := read_eq_ok_iff.2 ⟨q, hq, hbytes⟩
  rw [document, splice_eq, if_neg (by simpa using hle)]
  simp only [hq, hread]

end

/-- A splice sees nothing of a tree but its own file. -/
theorem document_congr {w' : Workspace} (hq : w.locate path = .ok q) (hq' : w'.locate path = .ok q)
    (he : w.entryAt q = w'.entryAt q) (d : Declaration) (block : CodeText) (refusal : Option String) :
    (∃ failure, w.document path d block refusal = .error failure ∧ w'.document path d block refusal = .error failure) ∨
      ∃ bytes bytes', w.entryAt q = some (.file bytes) ∧
        w.document path d block refusal = .ok (w.put q (.file bytes')) ∧
        w'.document path d block refusal = .ok (w'.put q (.file bytes')) := by
  have hread : w.read path = w'.read path := read_congr hq hq' he
  rw [document, document, splice_eq, splice_eq, ← hread, hq, hq']
  split
  · exact .inl ⟨_, rfl, rfl⟩
  cases hbytes : w.read path with
  | error fault => exact .inl ⟨_, rfl, rfl⟩
  | ok bytes =>
    cases refusal with
    | some reason => exact .inl ⟨_, rfl, rfl⟩
    | none =>
      dsimp only
      split
      · exact .inl ⟨_, rfl, rfl⟩
      cases block.encode with
      | error fault => exact .inl ⟨_, rfl, rfl⟩
      | ok encoded =>
        dsimp only
        split
        · exact .inl ⟨_, rfl, rfl⟩
        · obtain ⟨p, hp, hentry⟩ := read_eq_ok_iff.1 hbytes
          obtain rfl := Except.ok.inj (hq.symm.trans hp)
          exact .inr ⟨bytes, _, hentry, rfl, rfl⟩

/-- What a splice that succeeds has done. -/
theorem document_ok {w' : Workspace} {block : CodeText} {refusal : Option String}
    (h : w.document path d block refusal = .ok w') :
    ∃ q bytes bytes', w.locate path = .ok q ∧ w.entryAt q = some (.file bytes) ∧ w' = w.put q (.file bytes') := by
  have hcases := rewrite_rewrites (.ofRefusal w refusal) w path d.docStart.offset d.start.offset block d.name
    (by decide : 0 < chunkSize)
  unfold document splice at h
  split at h
  · cases h
  · rename_i hresult
    obtain rfl := Except.ok.inj h
    obtain ⟨-, q, bytes, hopens, -, hput⟩ := hcases.success (congrArg Prod.fst hresult)
    rw [hresult] at hput
    exact ⟨q, bytes, _, hopens.located, hopens.entry, hput⟩

end Workspace

/-! ## Answers -/

namespace Session

theorem requestType_of_found {s : Session} {qualified : String} {e : String × RequestType}
    (h : (s.requestTypes.find? fun e => e.1 == qualified) = some e) (patterns : List String)
    (file : Option String) : s.requestType patterns file qualified = (e.2, s) := by
  rw [requestType, h]

theorem requestType_found (patterns : List String) (file : Option String) (qualified : String) (s : Session) :
    ∃ e, ((s.requestType patterns file qualified).2.requestTypes.find? fun e => e.1 == qualified) = some e ∧
      e.2 = (s.requestType patterns file qualified).1 := by
  cases hfind : s.requestTypes.find? fun e => e.1 == qualified with
  | some e =>
    rw [requestType_of_found hfind]
    exact ⟨e, hfind, rfl⟩
  | none =>
    rw [requestType, hfind]
    refine ⟨(qualified, (s.search patterns file qualified).1), ?_, rfl⟩
    dsimp only
    rw [(search_reads patterns file qualified s).2, List.find?_append, hfind]
    simp

end Session

/-! ## One block -/

/-- The range of a handler's doc block, with its new block. -/
def Annotated.edit (a : Annotated) : Edit := a.handler.declaration.edit a.block.utf8

theorem applyEdits_concat (bytes : List UInt8) (done : List Annotated) (a : Annotated) :
    applyEdits bytes ((done ++ [a]).map Annotated.edit) =
      replaceRange (applyEdits bytes (done.map Annotated.edit)) a.edit.start a.edit.stop a.edit.block := by
  simp [applyEdits]

namespace Generator

variable (g : Generator) {path : String} {q : Place} {bytes : List UInt8} {s s' : Session}

/-- Whether the storage takes the block of a handler. -/
def accepts (path : String) (h : Handler) : Bool := (g.refusal path h.declaration).isNone

/-- The route, as far as it stands in the block of a handler, and the scheme hold no surrogates. -/
def ScalarRoute (name : String) : Prop :=
  let route := Route.resolve g.routes g.lead name
  route.path.Scalar ∧ route.method.Scalar ∧ (route.secured = true → g.scheme.Scalar)

instance (name : String) : Decidable (g.ScalarRoute name) := inferInstanceAs (Decidable (_ ∧ _ ∧ _))

/-- Whether a handler breaks the handling of its file off: its block is to be written and has no bytes. -/
def breaks (path : String) (h : Handler) : Bool := g.accepts path h && !decide (g.ScalarRoute h.name)

theorem annotate_turns (file : Option String) (h : Handler) (s : Session) : s.Turns q (g.annotate file h s).2 :=
  Session.requestType_turns ..

theorem annotate_workspace (file : Option String) (h : Handler) (s : Session) :
    (g.annotate file h s).2.workspace = s.workspace :=
  Session.requestType_workspace ..

theorem annotate_handler (file : Option String) (h : Handler) (s : Session) : (g.annotate file h s).1.handler = h := rfl

theorem annotate_scalar (file : Option String) (h : Handler) (s : Session) :
    (g.annotate file h s).1.block.Scalar ↔ g.ScalarRoute h.name :=
  DocBlock.scalar_block ..

/-- A handler has the block that it was first given. -/
theorem annotate_stays (file file' : Option String) (h : Handler) (hs : (g.annotate file h s).2.Turns q s') :
    (g.annotate file' h s').1 = (g.annotate file h s).1 := by
  obtain ⟨e, hfind, htype⟩ :=
    Session.requestType_found g.settings.typesPaths file (DocBlock.requestName h.name) s
  have hlater := Session.requestType_of_found (hs.answer_stays hfind) g.settings.typesPaths file'
  unfold annotate
  simp only [hlater, htype]

theorem writeBlock_turns (hq : s.workspace.locate path = .ok q) (file : Option String) (a : Annotated)
    (r : FileResult) : s.Turns q (g.writeBlock path file a r s).2 := by
  unfold writeBlock
  dsimp only
  split
  · exact .note _ .refl
  · split
    · split
      · exact .note _ .refl
      · exact .refl
    · rename_i w hw
      obtain ⟨q', bytes, bytes', hq', hbytes, rfl⟩ := Workspace.document_ok hw
      obtain rfl : q = q' := Except.ok.inj (hq.symm.trans hq')
      have hwrite : s.Turns q { s with workspace := s.workspace.put q (.file bytes') } := .write bytes' .refl hbytes
      split
      · exact hwrite.note _
      · exact hwrite

/-- What becomes of one block: it is left out where it is refused, it is written where it has bytes, and
otherwise it breaks the handling of the file off. -/
theorem writeBlock_cases (hdry : g.settings.dryRun = false) (hq : s.workspace.locate path = .ok q)
    (hbytes : s.workspace.entryAt q = some (.file bytes)) (file : Option String) (a : Annotated) (r : FileResult)
    (hle : a.handler.declaration.docStart.offset ≤ a.handler.declaration.start.offset)
    (hlen : a.handler.declaration.start.offset ≤ bytes.length) :
    (g.accepts path a.handler = false ∧ (g.writeBlock path file a r s).1 = r ∧
      (g.writeBlock path file a r s).2.workspace = s.workspace) ∨
    (g.accepts path a.handler = true ∧ a.block.Scalar ∧
      (g.writeBlock path file a r s).1 = { r with counts := oneMore r.counts, annotated := r.annotated ++ [a] } ∧
      (g.writeBlock path file a r s).2.workspace =
        s.workspace.put q (.file (replaceRange bytes a.edit.start a.edit.stop a.edit.block))) ∨
    (g.accepts path a.handler = true ∧ ¬a.block.Scalar ∧
      ∃ fault, g.writeBlock path file a r s = ({ r with raised := some (.unencodable fault) }, s)) := by
  unfold writeBlock accepts
  simp only [hdry, Bool.false_eq_true, if_false]
  cases hrefusal : g.refusal path a.handler.declaration with
  | some reason =>
    rw [Workspace.document_refused hq hbytes hle]
    exact .inl ⟨rfl, rfl, rfl⟩
  | none =>
    rw [Workspace.document_eq hq hbytes hle hlen]
    cases hencode : a.block.encode with
    | error fault => exact .inr (.inr ⟨rfl, CodeText.not_scalar_of_fault hencode, fault, rfl⟩)
    | ok encoded =>
      obtain ⟨hscalar, rfl⟩ := CodeText.encode_eq_ok_iff.1 hencode
      refine .inr (.inl ⟨rfl, hscalar, rfl, ?_⟩)
      dsimp only
      split <;> rfl

/-! ## All blocks of a file -/

theorem writeBlocks_cons (path : String) (file : Option String) (h : Handler) (hs : List Handler) (r : FileResult)
    (s : Session) : g.writeBlocks path file (h :: hs) r s =
      let (r, s) := g.writeBlock path file (g.annotate file h s).1 r (g.annotate file h s).2
      if r.raised.isSome then (r, s) else g.writeBlocks path file hs r s := rfl

/-- A block that breaks nothing off is followed by the others. -/
theorem writeBlocks_next {file : Option String} {h : Handler} (hs : List Handler) {r : FileResult}
    (hraised : (g.writeBlock path file (g.annotate file h s).1 r (g.annotate file h s).2).1.raised = none) :
    g.writeBlocks path file (h :: hs) r s =
      g.writeBlocks path file hs (g.writeBlock path file (g.annotate file h s).1 r (g.annotate file h s).2).1
        (g.writeBlock path file (g.annotate file h s).1 r (g.annotate file h s).2).2 := by
  rw [writeBlocks_cons]
  simp [hraised]

theorem writeBlocks_turns (hw : s.workspace.Sound) (hq : s.workspace.locate path = .ok q) (file : Option String)
    (hs : List Handler) (r : FileResult) : s.Turns q (g.writeBlocks path file hs r s).2 := by
  induction hs generalizing r s with
  | nil => exact .refl
  | cons h hs ih =>
    have hannotate := g.annotate_turns (q := q) file h s
    have hq' := hq
    rw [← g.annotate_workspace file h s] at hq'
    have hblock := g.writeBlock_turns hq' file (g.annotate file h s).1 r
    have hboth := hannotate.trans hblock
    have hq'' := hq
    rw [(hboth.alike hw).locate] at hq''
    rw [writeBlocks_cons]
    dsimp only
    split
    · exact hboth
    · exact hboth.trans (ih (hboth.sound hw) hq'' _)

/-- The blocks `as` of a file, written one after the other until one breaks the writing off, for the reason `why`;
those that are refused are left out. -/
structure Writes (path : String) (file : Option String) (q : Place) (bytes : List UInt8) (hs : List Handler)
    (r : FileResult) (s : Session) (as : List Annotated) (why : Option EncodeFault) : Prop where
  result : (g.writeBlocks path file hs r s).1 =
    { r with counts := { r.counts with newlyDocumented := r.counts.newlyDocumented + as.length },
             annotated := r.annotated ++ as, raised := why.map .unencodable }
  broken : why.isSome = hs.any (g.breaks path)
  handlers : as.map Annotated.handler = (hs.takeWhile fun h => !g.breaks path h).filter (g.accepts path)
  blocks : ∀ a ∈ as, (g.annotate file a.handler (g.writeBlocks path file hs r s).2).1 = a
  workspace : (g.writeBlocks path file hs r s).2.workspace =
    s.workspace.put q (.file (applyEdits bytes (as.map Annotated.edit)))

section

variable {g} {file : Option String} {h : Handler} {hs : List Handler} {r : FileResult} {as : List Annotated}
  {why : Option EncodeFault}

/-- A block that is refused is left out. -/
theorem Writes.refused (hraised : r.raised = none) (haccept : g.accepts path h = false)
    (hblock : g.writeBlock path file (g.annotate file h s).1 r (g.annotate file h s).2 = (r, s'))
    (hworkspace : s'.workspace = s.workspace) (has : g.Writes path file q bytes hs r s' as why) :
    g.Writes path file q bytes (h :: hs) r s as why := by
  have hstep : g.writeBlocks path file (h :: hs) r s = g.writeBlocks path file hs r s' := by
    rw [g.writeBlocks_next hs (by rw [hblock]; exact hraised), hblock]
  have hbreaks : g.breaks path h = false := by rw [breaks, haccept, Bool.false_and]
  refine ⟨?_, ?_, ?_, ?_, ?_⟩
  · rw [hstep, has.result]
  · rw [List.any_cons, hbreaks, Bool.false_or, has.broken]
  · rw [List.takeWhile_cons_of_pos (by simpa using hbreaks), List.filter_cons_of_neg (by simpa using haccept)]
    exact has.handlers
  · rw [hstep]
    exact has.blocks
  · rw [hstep, has.workspace, hworkspace]

/-- A block that is written is the first one. -/
theorem Writes.accepted {r' : FileResult} (hw : s.workspace.Sound)
    (hbytes : s.workspace.entryAt q = some (.file bytes)) (hraised : r.raised = none)
    (haccept : g.accepts path h = true) (hscalar : g.ScalarRoute h.name)
    (hblock : g.writeBlock path file (g.annotate file h s).1 r (g.annotate file h s).2 = (r', s'))
    (hr : r' = { r with counts := oneMore r.counts, annotated := r.annotated ++ [(g.annotate file h s).1] })
    {bytes' : List UInt8} (hworkspace : s'.workspace = s.workspace.put q (.file bytes'))
    (hbytes' : bytes' = replaceRange bytes (g.annotate file h s).1.edit.start (g.annotate file h s).1.edit.stop
      (g.annotate file h s).1.edit.block)
    (hlater : (g.annotate file h s).2.Turns q (g.writeBlocks path file hs r' s').2)
    (has : g.Writes path file q bytes' hs r' s' as why) :
    g.Writes path file q bytes (h :: hs) r s ((g.annotate file h s).1 :: as) why := by
  have hstep : g.writeBlocks path file (h :: hs) r s = g.writeBlocks path file hs r' s' := by
    rw [g.writeBlocks_next hs (by rw [hblock, hr]; exact hraised), hblock]
  have hbreaks : g.breaks path h = false := by rw [breaks, haccept, decide_eq_true hscalar]; rfl
  refine ⟨?_, ?_, ?_, ?_, ?_⟩
  · rw [hstep, has.result, hr]
    simp [oneMore]
    omega
  · rw [List.any_cons, hbreaks, Bool.false_or, has.broken]
  · rw [List.takeWhile_cons_of_pos (by simpa using hbreaks), List.filter_cons_of_pos (by simpa using haccept),
      List.map_cons, has.handlers]
    rfl
  · rw [hstep]
    exact List.forall_mem_cons.2 ⟨g.annotate_stays file file h hlater, has.blocks⟩
  · rw [hstep, has.workspace, hworkspace, Workspace.put_put hw hbytes, hbytes']
    rfl

/-- A block without bytes is the end of it. -/
theorem Writes.stopped (hw : s.workspace.Sound) (hbytes : s.workspace.entryAt q = some (.file bytes))
    (hbreaks : g.breaks path h = true) {fault : EncodeFault}
    (hblock : g.writeBlock path file (g.annotate file h s).1 r (g.annotate file h s).2 =
      ({ r with raised := some (.unencodable fault) }, (g.annotate file h s).2)) :
    g.Writes path file q bytes (h :: hs) r s [] (some fault) := by
  have hstep : g.writeBlocks path file (h :: hs) r s =
      ({ r with raised := some (.unencodable fault) }, (g.annotate file h s).2) := by
    rw [writeBlocks_cons, hblock]
    rfl
  refine ⟨?_, ?_, ?_, by simp, ?_⟩
  · rw [hstep]
    simp
  · rw [List.any_cons, hbreaks, Bool.true_or, Option.isSome_some]
  · rw [List.takeWhile_cons_of_neg (by simpa using hbreaks)]
    rfl
  · rw [hstep, g.annotate_workspace]
    exact (Workspace.put_self hw hbytes).symm

end

theorem writeBlocks_writes (hdry : g.settings.dryRun = false) {hs : List Handler} (hw : s.workspace.Sound)
    (hq : s.workspace.locate path = .ok q) (hbytes : s.workspace.entryAt q = some (.file bytes))
    (hle : ∀ h ∈ hs, h.declaration.docStart.offset ≤ h.declaration.start.offset)
    (hlen : ∀ h ∈ hs, h.declaration.start.offset ≤ bytes.length)
    (horder : hs.Pairwise fun h h' => h'.declaration.start.offset ≤ h.declaration.docStart.offset)
    (file : Option String) {r : FileResult} (hraised : r.raised = none) :
    ∃ as why, g.Writes path file q bytes hs r s as why := by
  induction hs generalizing r s bytes with
  | nil =>
    refine ⟨[], none, ?_, rfl, rfl, by simp, (Workspace.put_self hw hbytes).symm⟩
    simp [writeBlocks, ← hraised]
  | cons h hs ih =>
    obtain ⟨hleh, hle⟩ := List.forall_mem_cons.1 hle
    obtain ⟨hlenh, hlen⟩ := List.forall_mem_cons.1 hlen
    obtain ⟨horderh, horder⟩ := List.pairwise_cons.1 horder
    have hsame := g.annotate_workspace file h s
    have hq₁ : (g.annotate file h s).2.workspace.locate path = .ok q := by rw [hsame, hq]
    have hbytes₁ : (g.annotate file h s).2.workspace.entryAt q = some (.file bytes) := by rw [hsame, hbytes]
    have hturns := g.writeBlock_turns hq₁ file (g.annotate file h s).1 r
    have hblock := g.writeBlock_cases hdry hq₁ hbytes₁ file (g.annotate file h s).1 r hleh hlenh
    obtain ⟨r₁, s₁, hwritten⟩ : ∃ r₁ s₁,
        g.writeBlock path file (g.annotate file h s).1 r (g.annotate file h s).2 = (r₁, s₁) := ⟨_, _, rfl⟩
    rw [hwritten] at hturns hblock
    have hw₁ : s₁.workspace.Sound := hturns.sound (by rw [hsame]; exact hw)
    have hq₁' : s₁.workspace.locate path = .ok q := by
      rw [← (hturns.alike (by rw [hsame]; exact hw)).locate]; exact hq₁
    rw [g.annotate_handler, hsame, g.annotate_scalar] at hblock
    rcases hblock with ⟨haccept, hr, hworkspace⟩ | ⟨haccept, hscalar, hr, hworkspace⟩ | ⟨haccept, hscalar, fault, hr⟩
    · -- The file is as it was, and so are the ranges that are still to be written.
      dsimp only at hr hworkspace
      subst hr
      obtain ⟨as, why, has⟩ := ih hw₁ hq₁' (by rw [hworkspace]; exact hbytes) hle hlen horder hraised
      exact ⟨as, why, has.refused hraised haccept hwritten hworkspace⟩
    · -- What was written lies behind the ranges that are still to be written.
      dsimp only at hr hworkspace
      have hlen₁ : ∀ h' ∈ hs, h'.declaration.start.offset ≤
          (replaceRange bytes (g.annotate file h s).1.edit.start (g.annotate file h s).1.edit.stop
            (g.annotate file h s).1.edit.block).length :=
        fun h' hh' => le_length_replaceRange (hlen h' hh') (horderh h' hh')
      obtain ⟨as, why, has⟩ := ih hw₁ hq₁' (by rw [hworkspace]; exact Workspace.entryAt_put_self hbytes _) hle hlen₁
        horder (r := r₁) (by rw [hr]; exact hraised)
      have hlater := hturns.trans (g.writeBlocks_turns hw₁ hq₁' file hs r₁)
      exact ⟨_, why, has.accepted hw hbytes hraised haccept hscalar hwritten hr hworkspace rfl hlater⟩
    · have hbreaks : g.breaks path h = true := by rw [breaks, haccept, decide_eq_false hscalar]; rfl
      exact ⟨[], some fault, .stopped hw hbytes hbreaks (hwritten.trans hr)⟩

/-! ## The handlers of a file -/

theorem handlers_eq (ds : List Declaration) : ds.filterMap Handler.of? =
    (ds.filter isHandler).map fun d => ⟨d.name, receiverType d, isDocumented d, d⟩ := by
  induction ds with
  | nil => rfl
  | cons d ds ih =>
    have hof : Handler.of? d = if isHandler d then some ⟨d.name, receiverType d, isDocumented d, d⟩ else none := rfl
    rw [List.filterMap_cons, List.filter_cons, hof]
    cases isHandler d with
    | true => simpa using ih
    | false => simpa using ih

/-- Whether a function is a handler that is not documented. -/
def isPending (d : Declaration) : Bool := isHandler d && !isDocumented d

theorem pendingOf_eq (ds : List Declaration) :
    pendingOf ds = (ds.filter isPending).map fun d => ⟨d.name, receiverType d, isDocumented d, d⟩ := by
  rw [pendingOf, handlers_eq, List.filter_map, List.filter_filter]
  refine congrArg (List.map _) (List.filter_congr fun d _ => ?_)
  rw [isPending, Bool.and_comm]
  rfl

theorem pendingOf_declarations (ds : List Declaration) :
    (pendingOf ds).map Handler.declaration = ds.filter isPending := by
  rw [pendingOf_eq, List.map_map]
  exact List.map_id _

/-- The doc blocks of the handlers of a file lie in order. -/
theorem pending_ordered {nodes : List Node} (h : nodes? bytes = some nodes) :
    (∀ x ∈ pendingOf (Declaration.ofNodes nodes), x.declaration.docStart.offset ≤ x.declaration.start.offset) ∧
    (∀ x ∈ pendingOf (Declaration.ofNodes nodes), x.declaration.start.offset ≤ bytes.length) ∧
    (pendingOf (Declaration.ofNodes nodes)).Pairwise fun x y =>
      x.declaration.start.offset ≤ y.declaration.docStart.offset := by
  obtain ⟨hall, hpair⟩ := declarations_ordered h
  have hmem : ∀ x ∈ pendingOf (Declaration.ofNodes nodes), x.declaration ∈ Declaration.ofNodes nodes := by
    intro x hx
    have hx := List.mem_map_of_mem (f := Handler.declaration) hx
    rw [pendingOf_declarations] at hx
    exact List.mem_of_mem_filter hx
  refine ⟨fun x hx => (hall _ (hmem x hx)).1, fun x hx => (hall _ (hmem x hx)).2.2, ?_⟩
  have hpending := hpair.sublist (List.filter_sublist (p := isPending))
  rwa [← pendingOf_declarations, List.pairwise_map] at hpending

theorem collect_fst (file : Option String) (path : String) (s : Session) :
    (collect file path s).1 =
      (s.source file path).1.map fun x => (countsOf x.declarations, pendingOf x.declarations) := by
  unfold collect
  split
  · rename_i heq
    rw [heq]; rfl
  · rename_i heq
    rw [heq]; rfl

theorem collect_turns (file : Option String) (path : String) (s : Session) :
    s.Turns q (collect file path s).2 ∧ (collect file path s).2.workspace = s.workspace := by
  have hturns : s.Turns q (s.source file path).2 := .source file path .refl
  have hworkspace := Session.source_workspace file path s
  unfold collect
  split
  · rename_i heq
    rw [heq] at hturns hworkspace
    exact ⟨hturns, hworkspace⟩
  · rename_i heq
    rw [heq] at hturns hworkspace
    exact ⟨hturns.notes _, (Session.foldl_note_workspace _ _).trans hworkspace⟩

theorem processFile_turns (hw : s.workspace.Sound) (hq : s.workspace.locate path = .ok q) :
    s.Turns q (g.processFile path s).2 := by
  have hcollect := collect_turns (q := q) (some (PathText.base path)) path s
  unfold processFile
  dsimp only
  split
  · rename_i heq
    rw [heq] at hcollect
    exact hcollect.1.note _
  · rename_i heq
    rw [heq] at hcollect
    refine hcollect.1.trans (g.writeBlocks_turns (hcollect.1.sound hw) ?_ _ _ _)
    rw [hcollect.2]
    exact hq

theorem load_found {w : Workspace} (hq : w.locate path = .ok q) (hbytes : w.entryAt q = some (.file bytes)) :
    Source.load w path =
      match nodes? bytes with
      | none => .error (.unparsable path "syntax error")
      | some nodes => .ok ⟨path, bytes, nodes⟩ := by
  have hread : w.read path = .ok bytes := Workspace.read_eq_ok_iff.2 ⟨q, hq, hbytes⟩
  unfold Source.load
  cases hnodes : nodes? bytes with
  | none => simp only [hread, hnodes]
  | some nodes => simp only [hread, hnodes]

theorem load_ok {w : Workspace} {found : Source} (h : Source.load w path = .ok found) :
    ∃ q bytes nodes, w.locate path = .ok q ∧ w.entryAt q = some (.file bytes) ∧ nodes? bytes = some nodes := by
  unfold Source.load at h
  split at h
  · cases h
  · rename_i bytes hread
    obtain ⟨q, hq, hbytes⟩ := Workspace.read_eq_ok_iff.1 hread
    split at h
    · cases h
    · rename_i nodes hnodes
      exact ⟨q, bytes, nodes, hq, hbytes, hnodes⟩

theorem load_key (hw : s.workspace.Sound) (hq : s.workspace.locate path = .ok q)
    (hbytes : s.workspace.entryAt q = some (.file bytes)) :
    Source.load s.workspace (s.keyOf path) =
      match nodes? bytes with
      | none => .error (.unparsable (s.keyOf path) "syntax error")
      | some nodes => .ok ⟨s.keyOf path, bytes, nodes⟩ :=
  load_found (Workspace.locate_absolute hw hq) hbytes

/-- A file that cannot be parsed is left alone. -/
theorem processFile_unparsable (hw : s.workspace.Sound) (hq : s.workspace.locate path = .ok q)
    (hbytes : s.workspace.entryAt q = some (.file bytes)) (hcurrent : s.Current path) (hnodes : nodes? bytes = none) :
    (g.processFile path s).1 = ⟨path, {}, some (.unparsable (s.keyOf path) "syntax error"), [], none⟩ ∧
      (g.processFile path s).2.workspace = s.workspace := by
  have hcollect := collect_fst (some (PathText.base path)) path s
  rw [Session.source_eq_load hcurrent, load_key hw hq hbytes, hnodes] at hcollect
  have hworkspace := (collect_turns (q := q) (some (PathText.base path)) path s).2
  unfold processFile
  dsimp only
  revert hcollect hworkspace
  generalize collect (some (PathText.base path)) path s = found
  obtain ⟨found, s₁⟩ := found
  rintro hcollect hworkspace
  obtain rfl : found = .error (.unparsable (s.keyOf path) "syntax error") := hcollect
  exact ⟨rfl, hworkspace⟩

/-- A file that can be parsed is read once, and then its handlers are handled from the last to the
first. -/
theorem processFile_parsed (hw : s.workspace.Sound) (hq : s.workspace.locate path = .ok q)
    (hbytes : s.workspace.entryAt q = some (.file bytes)) (hcurrent : s.Current path) {nodes : List Node}
    (hnodes : nodes? bytes = some nodes) :
    g.processFile path s = g.writeBlocks path (some (PathText.base path))
      (pendingOf (Declaration.ofNodes nodes)).reverse ⟨path, countsOf (Declaration.ofNodes nodes), none, [], none⟩
      (collect (some (PathText.base path)) path s).2 := by
  have hfound := collect_fst (some (PathText.base path)) path s
  rw [Session.source_eq_load hcurrent, load_key hw hq hbytes, hnodes] at hfound
  have hcollect : collect (some (PathText.base path)) path s =
      (.ok (countsOf (Declaration.ofNodes nodes), pendingOf (Declaration.ofNodes nodes)),
        (collect (some (PathText.base path)) path s).2) := Prod.ext hfound rfl
  unfold processFile
  dsimp only
  rw [hcollect]

/-- What becomes of a file that can be parsed: the blocks `as` are written, until one breaks the handling off for
the reason `why`. -/
structure Handles (path : String) (q : Place) (bytes : List UInt8) (nodes : List Node) (s : Session)
    (as : List Annotated) (why : Option EncodeFault) : Prop where
  result : (g.processFile path s).1 =
    ⟨path, { countsOf (Declaration.ofNodes nodes) with newlyDocumented := as.length }, none, as, why.map .unencodable⟩
  broken : why.isSome = (pendingOf (Declaration.ofNodes nodes)).any (g.breaks path)
  handlers : as.map Annotated.handler =
    ((pendingOf (Declaration.ofNodes nodes)).reverse.takeWhile fun h => !g.breaks path h).filter (g.accepts path)
  blocks : ∀ a ∈ as, (g.annotate (some (PathText.base path)) a.handler (g.processFile path s).2).1 = a
  workspace : (g.processFile path s).2.workspace =
    s.workspace.put q (.file (applyEdits bytes (as.map Annotated.edit)))

theorem processFile_handles (hdry : g.settings.dryRun = false) (hw : s.workspace.Sound)
    (hq : s.workspace.locate path = .ok q) (hbytes : s.workspace.entryAt q = some (.file bytes))
    (hcurrent : s.Current path) {nodes : List Node} (hnodes : nodes? bytes = some nodes) :
    ∃ as why, g.Handles path q bytes nodes s as why := by
  have hprocess := g.processFile_parsed hw hq hbytes hcurrent hnodes
  have hworkspace := (collect_turns (q := q) (some (PathText.base path)) path s).2
  obtain ⟨hle, hlen, horder⟩ := pending_ordered hnodes
  obtain ⟨as, why, has⟩ : ∃ as why, g.Writes path (some (PathText.base path)) q bytes
      (pendingOf (Declaration.ofNodes nodes)).reverse
      ⟨path, countsOf (Declaration.ofNodes nodes), none, [], none⟩
      (collect (some (PathText.base path)) path s).2 as why := by
    refine g.writeBlocks_writes hdry ?_ ?_ ?_ (fun h hh => hle h (List.mem_reverse.1 hh))
      (fun h hh => hlen h (List.mem_reverse.1 hh)) (List.pairwise_reverse.2 horder) _ rfl
    · rw [hworkspace]; exact hw
    · rw [hworkspace]; exact hq
    · rw [hworkspace]; exact hbytes
  refine ⟨as, why, ?_, ?_, has.handlers, ?_, ?_⟩
  · rw [hprocess, has.result]
    simp [countsOf]
  · rw [has.broken, List.any_reverse]
  · rw [hprocess]; exact has.blocks
  · rw [hprocess, has.workspace, hworkspace]

/-- A file that is handled to the end has the blocks of all handlers that are accepted. -/
theorem Handles.complete {nodes : List Node} {as : List Annotated} {why : Option EncodeFault}
    (h : g.Handles path q bytes nodes s as why) (hraised : (g.processFile path s).1.raised = none) :
    why = none ∧
      as.map Annotated.handler = ((pendingOf (Declaration.ofNodes nodes)).filter (g.accepts path)).reverse := by
  rw [h.result, Option.map_eq_none_iff] at hraised
  subst hraised
  have hwhole := h.broken
  rw [Option.isSome_none, eq_comm, List.any_eq_false] at hwhole
  refine ⟨rfl, ?_⟩
  rw [h.handlers, List.takeWhile_eq_self_iff.2, List.filter_reverse]
  intro x hx
  simpa using hwhole x (List.mem_reverse.1 hx)

/-! ## Every block at its place -/

/-- The new doc blocks of the handlers of a file, at the places where the file had the old ones; the
blocks are those that the session has for them. -/
def blockEdits (path : String) (hs : List Handler) (s : Session) : List Edit :=
  hs.map fun h => h.declaration.edit (g.annotate (some (PathText.base path)) h s).1.block.utf8

theorem blockEdits_ascending {source : List UInt8} {nodes : List Node} (h : nodes? source = some nodes)
    {hs : List Handler} (hsub : (hs.map Handler.declaration).Sublist (Declaration.ofNodes nodes)) :
    Ascending source.length 0 (g.blockEdits path hs s) := by
  obtain ⟨hall, hpair⟩ := declarations_ordered h
  replace hall := fun d (hd : d ∈ hs.map Handler.declaration) => hall d (hsub.subset hd)
  replace hpair := hpair.sublist hsub
  rw [List.forall_mem_map] at hall
  rw [List.pairwise_map] at hpair
  have hfrom : ∀ here, here ≤ source.length → (∀ h ∈ hs, here ≤ h.declaration.docStart.offset) →
      Ascending source.length here (g.blockEdits path hs s) := by
    clear hsub
    induction hs with
    | nil => exact fun _ hhere _ => hhere
    | cons h hs ih =>
      intro here _ hbefore
      obtain ⟨hh, hall⟩ := List.forall_mem_cons.1 hall
      obtain ⟨hbehind, hpair⟩ := List.pairwise_cons.1 hpair
      exact ⟨hbefore h List.mem_cons_self, hh.1, ih hall hpair _ hh.2.2 hbehind⟩
  exact hfrom 0 (Nat.zero_le _) fun _ _ => Nat.zero_le _

/-- The edits of a file that is handled to the end, in the order of the text. -/
theorem Handles.edits {nodes : List Node} {as : List Annotated} {why : Option EncodeFault}
    (h : g.Handles path q bytes nodes s as why) (hraised : (g.processFile path s).1.raised = none) :
    as.reverse.map Annotated.edit =
      g.blockEdits path ((pendingOf (Declaration.ofNodes nodes)).filter (g.accepts path)) (g.processFile path s).2 := by
  have hhandlers := congrArg List.reverse (h.complete g hraised).2
  rw [List.reverse_reverse, ← List.map_reverse] at hhandlers
  rw [blockEdits, ← hhandlers, List.map_map]
  refine List.map_congr_left fun a ha => ?_
  rw [Function.comp_apply, h.blocks a (List.mem_reverse.1 ha)]
  rfl

/-- The handling of a file is broken off exactly where a handler breaks it off. -/
theorem processFile_raised_iff (hdry : g.settings.dryRun = false) (hw : s.workspace.Sound) {source : List UInt8}
    (hread : s.workspace.read path = .ok source) (hcurrent : s.Current path) {nodes : List Node}
    (hnodes : nodes? source = some nodes) :
    (g.processFile path s).1.raised = none ↔
      ∀ h ∈ pendingOf (Declaration.ofNodes nodes), g.accepts path h = true → g.ScalarRoute h.name := by
  obtain ⟨q, hq, hbytes⟩ := Workspace.read_eq_ok_iff.1 hread
  obtain ⟨as, why, has⟩ := g.processFile_handles hdry hw hq hbytes hcurrent hnodes
  rw [has.result, Option.map_eq_none_iff, ← Option.not_isSome_iff_eq_none, has.broken, Bool.not_eq_true,
    List.any_eq_false]
  simp [breaks]

/-- **Every block at its place.** A file that can be parsed is left as it was, but for the doc blocks
of the handlers that were not documented: each of them is replaced by its new block, unless the
storage refuses it. No other place changes. The blocks have to have bytes. -/
theorem processFile_splices (hdry : g.settings.dryRun = false) (hw : s.workspace.Sound) {source : List UInt8}
    (hread : s.workspace.read path = .ok source) (hcurrent : s.Current path) {nodes : List Node}
    (hnodes : nodes? source = some nodes)
    (hscalar : ∀ h ∈ pendingOf (Declaration.ofNodes nodes), g.accepts path h = true → g.ScalarRoute h.name) :
    let pending := pendingOf (Declaration.ofNodes nodes)
    let refused := pending.filter fun h => !g.accepts path h
    let edits := g.blockEdits path (pending.filter (g.accepts path)) (g.processFile path s).2
    (g.processFile path s).1.raised = none ∧
      Ascending source.length 0 edits ∧
      (g.processFile path s).2.workspace.read path = .ok (replaceRanges source 0 edits) ∧
      (g.processFile path s).1.counts.newlyDocumented = pending.length - refused.length ∧
      ∀ p, s.workspace.locate path ≠ .ok p →
        (g.processFile path s).2.workspace.entryAt p = s.workspace.entryAt p := by
  intro pending refused edits
  obtain ⟨q, hq, hbytes⟩ := Workspace.read_eq_ok_iff.1 hread
  obtain ⟨as, why, has⟩ := g.processFile_handles hdry hw hq hbytes hcurrent hnodes
  have hraised := (g.processFile_raised_iff hdry hw hread hcurrent hnodes).2 hscalar
  have hturns := g.processFile_turns hw hq
  have hedits : as.reverse.map Annotated.edit = edits := has.edits g hraised
  have hascending : Ascending source.length 0 edits := by
    have hsub : ((pending.filter (g.accepts path)).map Handler.declaration).Sublist (Declaration.ofNodes nodes) := by
      refine (List.filter_sublist.map _).trans ?_
      rw [pendingOf_declarations]
      exact List.filter_sublist
    exact g.blockEdits_ascending hnodes hsub
  refine ⟨hraised, hascending, ?_, ?_, fun p hp => hturns.entryAt fun hpq => hp (hpq ▸ hq)⟩
  · rw [has.workspace, ← applyEdits_reverse hascending, ← hedits, ← List.map_reverse, List.reverse_reverse]
    exact Workspace.read_put hw hbytes hq _
  · rw [has.result]
    have hlength := congrArg List.length (has.complete g hraised).2
    rw [List.length_map, List.length_reverse] at hlength
    have hsplit := List.length_eq_length_filter_add (l := pending) (g.accepts path)
    change as.length = (pending.filter (g.accepts path)).length at hlength
    change pending.length = (pending.filter (g.accepts path)).length + refused.length at hsplit
    change ((as.length : Nat) : Int) = pending.length - refused.length
    omega

/-- A file with two handlers, the second with a comment above it. -/
def twoHandlers : List UInt8 :=
  Text.utf8 "func (h *AHandler) A(c *g.Context) \x7b\x7d\n\n// B.\nfunc (h *AHandler) B(c *g.Context) \x7b\x7d\n"

/-- A generator whose storage refuses the second of two handlers. -/
def takesFirst : Generator where
  settings := ⟨".", "router.go", [], "*.go", "BearerAuth", "/api", 1, false, "authorized", "public", false⟩
  routes := []
  refusal _ d := if d.name == "B" then some "no space left on device" else none

theorem nodes?_twoHandlers :
    ∃ nodes ∈ nodes? twoHandlers,
      (Declaration.ofNodes nodes).map (fun d => (d.name, receiverType d, isHandler d, isDocumented d)) =
        [("A", "AHandler", true, false), ("B", "AHandler", true, false)] ∧
      (Declaration.ofNodes nodes).map (fun d => (d.docStart.offset, d.start.offset)) = [(0, 0), (39, 45)] ∧
      (pendingOf (Declaration.ofNodes nodes)).map Handler.name = ["A", "B"] ∧
      (pendingOf (Declaration.ofNodes nodes)).map (takesFirst.accepts "a.go") = [true, false] := by
  rw [twoHandlers, Text.utf8, String.toList_ofList]
  decide +kernel

theorem processFile_splices_twoHandlers :
    ∃ nodes, nodes? twoHandlers = some nodes ∧ (pendingOf (Declaration.ofNodes nodes)).length = 2 ∧
      (takesFirst.processFile "a.go" (.start ⟨[(["a.go"], .file twoHandlers)], []⟩)).1.counts.newlyDocumented = 1 := by
  obtain ⟨nodes, hnodes, -, -, hnames, haccepts⟩ := nodes?_twoHandlers
  have hlength : (pendingOf (Declaration.ofNodes nodes)).length = 2 := by simpa using congrArg List.length haccepts
  have hrefused : ((pendingOf (Declaration.ofNodes nodes)).filter fun h => !takesFirst.accepts "a.go" h).length = 1 := by
    have hfilter := congrArg (fun bs => (bs.filter (!·)).length) haccepts
    rw [List.filter_map, List.length_map] at hfilter
    exact hfilter
  have hscalar : ∀ name ∈ ["A", "B"], takesFirst.ScalarRoute name := by decide +kernel
  have hcurrent := Session.current_start ⟨[(["a.go"], .file twoHandlers)], []⟩ "a.go"
  have hsplices := takesFirst.processFile_splices rfl (by decide +kernel) (by decide +kernel) hcurrent hnodes
    fun h hh _ => hscalar h.name (hnames ▸ List.mem_map_of_mem hh)
  refine ⟨nodes, hnodes, hlength, ?_⟩
  rw [hsplices.2.2.2.1, hlength, hrefused]
  rfl

end Generator

end RouteDoc
