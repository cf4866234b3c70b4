/-
Work on a draft.

A draft stands at a place where nothing was, so a tree with a draft that is given
up is the tree again (`discard_draft`). What a part of the work comes to is said
with the operations that it takes (`Runs`): where none of them fails it comes to
its result, and where one fails it stops there with its reason. The chunks of a
file add up to its bytes whatever their size (`copy_runs`, `copyRest_runs`), so a
file with a range replaced is what the whole work comes to (`fill_runs`).
-/
import RouteDoc.Proofs.Text.CodeTexts
import RouteDoc.Proofs.Workspace.Writing
import RouteDoc.Splice

namespace RouteDoc

/-! ## Drafts in a tree -/

namespace Workspace

variable {w : Workspace} {p : Place}

theorem key_ne_of_free (hfree : w.entryAt p = none) : ∀ x ∈ w.entries, x.1 ≠ p := by
  unfold entryAt at hfree
  split at hfree
  · cases hfree
  · have hnone := List.find?_eq_none.1 (Option.map_eq_none_iff.1 hfree)
    intro x hx hkey
    exact hnone x hx (by simpa using hkey)

/-- A tree with a draft at a place. -/
def draft (w : Workspace) (p : Place) (bytes : List UInt8) : Draft :=
  ⟨{ w with entries := w.entries ++ [(p, .file bytes)] }, p⟩

section

variable (hfree : w.entryAt p = none) (bytes : List UInt8)
include hfree

theorem put_free (e : Entry) : w.put p e = { w with entries := w.entries ++ [(p, e)] } := by
  unfold put
  rw [if_neg]
  simpa using fun e hx => key_ne_of_free hfree (p, e) hx rfl

theorem bytes_draft : (w.draft p bytes).bytes = bytes := by
  have hp : p.isEmpty = false := by
    cases p with
    | nil => cases hfree
    | cons => rfl
  have hnone : (w.entries.find? fun e => e.1 == p) = none :=
    List.find?_eq_none.2 fun x hx => by simpa using key_ne_of_free hfree x hx
  simp [draft, Draft.bytes, entryAt, hp, hnone]

theorem append_draft (piece : List UInt8) : (w.draft p bytes).append piece = w.draft p (bytes ++ piece) := by
  have hkeep : (w.entries.map fun x => if x.1 = p then (p, Entry.file (bytes ++ piece)) else x) = w.entries := by
    refine (List.map_congr_left fun x hx => ?_).trans (List.map_id w.entries)
    exact if_neg (key_ne_of_free hfree x hx)
  unfold Draft.append
  rw [bytes_draft hfree]
  simp [draft, put, hkeep]

theorem discard_draft : (w.draft p bytes).discard = w := by
  have hkeep : w.entries.filter (fun x => x.1 != p) = w.entries :=
    List.filter_eq_self.2 fun x hx => by simpa using key_ne_of_free hfree x hx
  simp [draft, Draft.discard, unlink, hkeep]

theorem replace_draft (place : Place) : (w.draft p bytes).replace place = w.put place (.file bytes) := by
  rw [Draft.replace, discard_draft hfree, bytes_draft hfree]

end

end Workspace

/-! ## Chunks -/

/-- The operations that copy `count` bytes from an offset of the file to an offset of the draft. -/
def Copies (chunk count source target : Nat) (op : Operation) : Prop :=
  ∃ k, k * chunk < count ∧ (op = .read (source + k * chunk) ∨ op = .write (target + k * chunk))

theorem not_copies_zero {chunk source target : Nat} {op : Operation} : ¬ Copies chunk 0 source target op := by
  rintro ⟨k, hk, -⟩
  exact Nat.not_lt_zero _ hk

theorem Copies.ne_create {chunk count source target : Nat} {op : Operation} (h : Copies chunk count source target op) :
    op ≠ .create := by
  obtain ⟨k, -, rfl | rfl⟩ := h <;> simp

/-- The first chunk, and the chunks behind it. -/
theorem copies_iff {chunk count source target n : Nat} {op : Operation} (hchunk : 0 < chunk) (hcount : 0 < count)
    (hn : n = min chunk count) :
    Copies chunk count source target op ↔
      op = .read source ∨ op = .write target ∨ Copies chunk (count - n) (source + n) (target + n) op := by
  constructor
  · rintro ⟨k, hk, hop⟩
    cases k with
    | zero =>
      simp only [Nat.zero_mul, Nat.add_zero] at hop
      exact hop.imp_right .inl
    | succ k =>
      rw [Nat.succ_mul] at hk hop
      obtain rfl : n = chunk := by omega
      refine .inr (.inr ⟨k, by omega, ?_⟩)
      rwa [Nat.add_assoc, Nat.add_comm n, Nat.add_assoc, Nat.add_comm n]
  · rintro (rfl | rfl | ⟨k, hk, hop⟩)
    · exact ⟨0, by omega, .inl (by simp)⟩
    · exact ⟨0, by omega, .inr (by simp)⟩
    · have hle : chunk ≤ count := by
        by_contra hlt
        have hzero : count - n = 0 := by omega
        exact Nat.not_lt_zero _ (hzero ▸ hk)
      obtain rfl : n = chunk := by omega
      refine ⟨k + 1, by rw [Nat.succ_mul]; omega, ?_⟩
      rw [Nat.succ_mul, Nat.add_comm (k * n)]
      rwa [Nat.add_assoc, Nat.add_assoc] at hop

/-! ## What a part of the work comes to -/

namespace Storage

variable {storage : Storage} {w : Workspace} {p : Place}

/-- Work on a draft with the bytes `before` comes to a result, where none of the operations that it
takes fails; where one fails, it stops there, and nothing but the bytes of the draft has changed. -/
def Runs (storage : Storage) (w : Workspace) (p : Place) (work : Drafting Unit) (takes : Operation → Prop)
    (before : List UInt8) (result : EStateM.Result Interruption Draft Unit) : Prop :=
  ((∀ op, takes op → storage.fault op = none) ∧ work (w.draft p before) = result) ∨
    ∃ op reason after, takes op ∧ storage.fault op = some reason ∧
      work (w.draft p before) = .error (.refused reason) (w.draft p after)

namespace Runs

variable {work next : Drafting Unit} {takes takes' : Operation → Prop} {before between : List UInt8}
  {result : EStateM.Result Interruption Draft Unit}

theorem congr (h : storage.Runs w p work takes before result) (htakes : ∀ op, takes op ↔ takes' op) :
    storage.Runs w p work takes' before result := by
  obtain rfl : takes = takes' := funext fun op => propext (htakes op)
  exact h

/-- Work that does nothing with the storage. -/
theorem of_eq (h : work (w.draft p before) = result) : storage.Runs w p work (fun _ => False) before result :=
  .inl ⟨fun _ h => h.elim, h⟩

/-- One part of the work after the other. -/
theorem bind (h : storage.Runs w p work takes before (.ok () (w.draft p between)))
    (hnext : storage.Runs w p next takes' between result) :
    storage.Runs w p (work >>= fun _ => next) (fun op => takes op ∨ takes' op) before result := by
  obtain ⟨hgood, hwork⟩ | ⟨op, reason, after, hop, hfault, hwork⟩ := h
  · have hbind : (work >>= fun _ => next) (w.draft p before) = next (w.draft p between) := by
      simp only [Bind.bind, EStateM.bind, hwork]
    rw [Runs, hbind]
    obtain ⟨hgood', hnext⟩ | ⟨op, reason, after, hop, hfault, hnext⟩ := hnext
    · exact .inl ⟨fun op hop => hop.elim (hgood op) (hgood' op), hnext⟩
    · exact .inr ⟨op, reason, after, .inr hop, hfault, hnext⟩
  · refine .inr ⟨op, reason, after, .inl hop, hfault, ?_⟩
    simp only [Bind.bind, EStateM.bind, hwork]

/-- Work that is given up is not gone on with. -/
theorem bind_error {x : Interruption} {d : Draft} (h : storage.Runs w p work takes before (.error x d)) :
    storage.Runs w p (work >>= fun _ => next) takes before (.error x d) := by
  obtain ⟨hgood, hwork⟩ | ⟨op, reason, after, hop, hfault, hwork⟩ := h
  · refine .inl ⟨hgood, ?_⟩
    simp only [Bind.bind, EStateM.bind, hwork]
  · refine .inr ⟨op, reason, after, hop, hfault, ?_⟩
    simp only [Bind.bind, EStateM.bind, hwork]

end Runs

variable (storage)

theorem ask_runs (op : Operation) (before : List UInt8) :
    storage.Runs w p (storage.ask op) (· = op) before (.ok () (w.draft p before)) := by
  unfold Runs ask
  cases hfault : storage.fault op with
  | none => exact .inl ⟨fun _ h => h ▸ hfault, rfl⟩
  | some reason => exact .inr ⟨op, reason, before, rfl, hfault, rfl⟩

/-- What is done at the end in any case takes its operation too, and its own failure comes first. -/
theorem Runs.ending {work : Drafting Unit} {takes : Operation → Prop} {before after : List UInt8}
    {result : EStateM.Result Interruption Draft Unit} (h : storage.Runs w p work takes before result)
    (hresult : result = .ok () (w.draft p after) ∨ ∃ x, result = .error x (w.draft p after)) (op : Operation) :
    storage.Runs w p (tryFinally work (storage.ask op)) (fun op' => takes op' ∨ op' = op) before result := by
  cases hfault : storage.fault op with
  | none =>
    have hsame : tryFinally work (storage.ask op) (w.draft p before) = work (w.draft p before) := by
      simp only [tryFinally, tryFinally', Functor.map, EStateM.map, ask, hfault]
      cases work (w.draft p before) <;> rfl
    obtain ⟨hgood, hwork⟩ | ⟨op', reason, after', hop, hfault', hwork⟩ := h
    · exact .inl ⟨fun op' hop => hop.elim (hgood op') (· ▸ hfault), hsame.trans hwork⟩
    · exact .inr ⟨op', reason, after', .inl hop, hfault', hsame.trans hwork⟩
  | some reason =>
    obtain ⟨after', hwork⟩ : ∃ after', work (w.draft p before) = .ok () (w.draft p after') ∨
        ∃ x, work (w.draft p before) = .error x (w.draft p after') := by
      obtain ⟨-, hwork⟩ | ⟨_, reason', after', -, -, hwork⟩ := h
      · exact ⟨after, hwork ▸ hresult⟩
      · exact ⟨after', .inr ⟨_, hwork⟩⟩
    refine .inr ⟨op, reason, after', .inr rfl, hfault, ?_⟩
    simp only [tryFinally, tryFinally', Functor.map, EStateM.map, ask, hfault]
    obtain hwork | ⟨x, hwork⟩ := hwork <;> (rw [hwork]; rfl)

section

variable (hfree : w.entryAt p = none)
include hfree

theorem write_runs (piece before : List UInt8) :
    storage.Runs w p (storage.write piece) (· = .write before.length) before
      (.ok () (w.draft p (before ++ piece))) := by
  have hwrite : storage.write piece (w.draft p before) =
      (storage.ask (.write (w.draft p before).bytes.length) >>= fun _ => set ((w.draft p before).append piece))
        (w.draft p before) := rfl
  rw [Workspace.bytes_draft hfree, Workspace.append_draft hfree] at hwrite
  have hset : storage.Runs w p (set (w.draft p (before ++ piece))) (fun _ => False) before
      (.ok () (w.draft p (before ++ piece))) := .of_eq rfl
  have hboth := ((storage.ask_runs (.write before.length) before).bind hset).congr fun op => or_iff_left id
  unfold Runs at hboth ⊢
  rw [hwrite]
  exact hboth

/-- **A counted copy**, chunk by chunk: what the file has of the bytes that are asked for is added to
the draft, and where it has too few the draft is given up. -/
theorem copy_runs {chunk : Nat} (hchunk : 0 < chunk) (rest : List UInt8) (offset count : Nat) (before : List UInt8) :
    storage.Runs w p (storage.copy chunk rest offset count)
      (fun op => Copies chunk (min count rest.length) offset before.length op ∨
        rest.length < count ∧ op = .read (offset + rest.length))
      before
      (if rest.length < count then .error (.early (count - rest.length)) (w.draft p (before ++ rest.take count))
        else .ok () (w.draft p (before ++ rest.take count))) := by
  induction count using Nat.strongRecOn generalizing rest offset before with
  | ind count ih =>
    rw [copy]
    by_cases hcount : count = 0
    · subst hcount
      rw [if_pos rfl, if_neg (Nat.not_lt_zero _)]
      refine (Runs.of_eq ?_).congr fun op => ?_
      · simp [pure, EStateM.pure]
      · simp [not_copies_zero]
    · rw [if_neg hcount]
      dsimp only
      by_cases hrest : rest = []
      · -- The file has ended.
        subst hrest
        have hthrow : storage.Runs w p (throw (.early count)) (fun _ => False) before
            (.error (.early count) (w.draft p before)) := .of_eq rfl
        have hboth := (storage.ask_runs (.read offset) before).bind hthrow
        simpa [Nat.pos_of_ne_zero hcount, not_copies_zero] using hboth
      · -- A chunk that is not empty, and the copy of the rest.
        have hlength : (rest.take (min chunk count)).length = min chunk (min count rest.length) := by
          rw [List.length_take]; omega
        have hpos : 0 < rest.length := List.length_pos_iff.2 hrest
        have hpiece : (rest.take (min chunk count)).isEmpty = false := by
          rw [List.isEmpty_eq_false_iff, ← List.length_pos_iff, hlength]
          omega
        have htake : rest.take (min chunk count) = rest.take (min chunk (min count rest.length)) := by
          rw [← hlength, List.length_take, ← List.take_eq_take_min]
        rw [hpiece, if_neg Bool.false_ne_true, hlength, htake]
        generalize hm : min chunk (min count rest.length) = m
        have hrec := ih (count - m) (by omega) (rest.drop m) (offset + m) (before ++ rest.take m)
        have hall := (storage.ask_runs (.read offset) before).bind
          ((storage.write_runs hfree (rest.take m) before).bind hrec)
        have hadd : before ++ rest.take m ++ (rest.drop m).take (count - m) = before ++ rest.take count := by
          rw [List.append_assoc, ← List.take_add, Nat.add_sub_cancel' (by omega)]
        rw [hadd, List.length_drop, Nat.sub_sub_sub_cancel_right (by omega)] at hall
        have hshort : rest.length - m < count - m ↔ rest.length < count := by omega
        simp only [hshort] at hall
        refine hall.congr fun op => ?_
        rw [copies_iff hchunk (by omega) hm.symm, List.length_append, List.length_take_of_le (by omega),
          Nat.sub_min_sub_right, Nat.add_assoc offset, Nat.add_sub_cancel' (by omega), or_assoc, or_assoc]

/-- **A copy of all the rest**, chunk by chunk. -/
theorem copyRest_runs {chunk : Nat} (hchunk : 0 < chunk) (rest : List UInt8) (offset : Nat) (before : List UInt8) :
    storage.Runs w p (storage.copyRest chunk rest offset)
      (fun op => Copies chunk rest.length offset before.length op ∨ op = .read (offset + rest.length))
      before (.ok () (w.draft p (before ++ rest))) := by
  induction hcount : rest.length using Nat.strongRecOn generalizing rest offset before with
  | ind count ih =>
    rw [copyRest]
    dsimp only
    by_cases hrest : rest = []
    · subst hrest
      have hpure : storage.Runs w p (pure ()) (fun _ => False) before (.ok () (w.draft p before)) := .of_eq rfl
      have hboth := (storage.ask_runs (.read offset) before).bind hpure
      obtain rfl : count = 0 := hcount.symm
      simpa [not_copies_zero] using hboth
    · have hpos : 0 < rest.length := List.length_pos_iff.2 hrest
      have hlength : (rest.take chunk).length = min chunk rest.length := List.length_take
      have hpiece : (rest.take chunk).isEmpty = false := by
        rw [List.isEmpty_eq_false_iff, ← List.length_pos_iff, hlength]
        omega
      rw [hpiece, if_neg Bool.false_ne_true, hlength, List.take_eq_take_min]
      generalize hm : min chunk rest.length = m
      have hrec := ih (count - m) (by omega) (rest.drop m) (offset + m) (before ++ rest.take m)
        (by rw [List.length_drop, hcount])
      have hall := (storage.ask_runs (.read offset) before).bind
        ((storage.write_runs hfree (rest.take m) before).bind hrec)
      rw [List.append_assoc, List.take_append_drop] at hall
      refine hall.congr fun op => ?_
      have hfirst : Copies chunk count offset before.length op ↔ _ := copies_iff hchunk (by omega) (hcount ▸ hm.symm)
      rw [hfirst, List.length_append, List.length_take_of_le (by omega), Nat.add_assoc offset,
        Nat.add_sub_cancel' (by omega), or_assoc, or_assoc]

end

/-! ## The whole work -/

/-- The end of a range that a file does not reach and that is no offset. -/
def TooFar (length stop : Nat) : Prop := length < stop ∧ Draft.offsetLimit ≤ stop

instance (length stop : Nat) : Decidable (TooFar length stop) := inferInstanceAs (Decidable (_ ∧ _))

/-- The operations that it takes to replace a range of a file of `length` bytes by `size` bytes, once
there is a draft. A text without bytes ends the work before it is written. -/
def Takes (chunk length start stop : Nat) (size : Option Nat) (op : Operation) : Prop :=
  Copies chunk start 0 0 op ∨ op = .close ∨ ∃ n, size = some n ∧ (op = .write start ∨
    ¬ TooFar length stop ∧
      (op = .seek ∨ Copies chunk (length - stop) stop (start + n) op ∨ op = .read (max stop length) ∨
        op ∈ [.flush, .sync, .copyMode, .rename]))

theorem Takes.ne_create {chunk length start stop : Nat} {size : Option Nat} {op : Operation}
    (h : Takes chunk length start stop size op) : op ≠ .create := by
  rcases h with h | rfl | ⟨n, -, rfl | ⟨-, rfl | h | rfl | h⟩⟩
  · exact h.ne_create
  · simp
  · simp
  · simp
  · exact h.ne_create
  · simp
  · rintro rfl
    simp at h

section

variable (hfree : w.entryAt p = none) {chunk : Nat} (hchunk : 0 < chunk) (bytes : List UInt8) (block : CodeText)
  {start stop : Nat}
include hfree hchunk

/-- A file that ends before the range starts. -/
theorem fill_short (hshort : bytes.length < start) :
    storage.Runs w p (storage.fill chunk bytes start stop block)
      (fun op => (Copies chunk bytes.length 0 0 op ∨ op = .read bytes.length) ∨ op = .close) []
      (.error (.early (start - bytes.length)) (w.draft p bytes)) := by
  have hcopy := storage.copy_runs hfree hchunk bytes 0 start []
  rw [if_pos hshort, List.nil_append, List.take_of_length_le (by omega)] at hcopy
  refine ((hcopy.bind_error.ending storage (.inr ⟨_, rfl⟩) .close).bind_error).congr fun op => ?_
  simp [hshort, Nat.min_eq_right (Nat.le_of_lt hshort)]

/-- A file that reaches the range, and a text that has no bytes. -/
theorem fill_unencodable (stop : Nat) (hreach : start ≤ bytes.length) {fault : EncodeFault}
    (hblock : block.encode = .error fault) :
    storage.Runs w p (storage.fill chunk bytes start stop block) (Takes chunk bytes.length start stop block.size?) []
      (.error (.unencodable fault) (w.draft p (bytes.take start))) := by
  have hcopy := storage.copy_runs hfree hchunk bytes 0 start []
  rw [if_neg (by omega), List.nil_append] at hcopy
  have hwrite : storage.Runs w p (storage.writeText block) (fun _ => False) (bytes.take start)
      (.error (.unencodable fault) (w.draft p (bytes.take start))) := .of_eq (by rw [writeText, hblock]; rfl)
  rw [fill, compose]
  refine (((hcopy.bind hwrite.bind_error).ending storage (.inr ⟨_, rfl⟩) .close).bind_error).congr fun op => ?_
  simp [Takes, CodeText.size?_of_fault hblock, Nat.min_eq_left hreach, Nat.not_lt.2 hreach]

/-- A file that reaches the range. -/
theorem fill_runs (hreach : start ≤ bytes.length) (hblock : block.Scalar) :
    storage.Runs w p (storage.fill chunk bytes start stop block) (Takes chunk bytes.length start stop block.size?) []
      (if TooFar bytes.length stop then .error .offset (w.draft p (bytes.take start ++ block.utf8))
        else .ok () (w.draft p (replaceRange bytes start stop block.utf8))) := by
  have hcopy := storage.copy_runs hfree hchunk bytes 0 start []
  rw [if_neg (by omega), List.nil_append] at hcopy
  have hwrite := storage.write_runs hfree block.utf8 (bytes.take start)
  have htext : storage.writeText block = storage.write block.utf8 := by
    rw [writeText, CodeText.encode_of_scalar hblock]
  have hstart : (bytes.take start).length = start := List.length_take_of_le hreach
  rw [CodeText.size?_of_scalar hblock, fill, compose, htext]
  by_cases hfar : TooFar bytes.length stop
  · have hthrow : storage.Runs w p (throw .offset) (fun _ => False) (bytes.take start ++ block.utf8)
        (.error .offset (w.draft p (bytes.take start ++ block.utf8))) := .of_eq rfl
    have hcompose := hcopy.bind (hwrite.bind hthrow)
    rw [if_pos hfar, if_pos (show _ ∧ _ from hfar)]
    refine ((hcompose.ending storage (.inr ⟨_, rfl⟩) .close).bind_error).congr fun op => ?_
    simp [Takes, hfar, hstart, Nat.min_eq_left hreach, Nat.not_lt.2 hreach, or_assoc, or_comm, or_left_comm]
  · have hrest := storage.copyRest_runs hfree hchunk (bytes.drop stop) stop (bytes.take start ++ block.utf8)
    have hask (op : Operation) : storage.Runs w p (storage.ask op) (· = op) (replaceRange bytes start stop block.utf8)
        (.ok () (w.draft p (replaceRange bytes start stop block.utf8))) := storage.ask_runs op _
    have hcompose := hcopy.bind (hwrite.bind ((storage.ask_runs .seek _).bind
      (hrest.bind ((hask .flush).bind (hask .sync)))))
    rw [if_neg hfar, if_neg (show ¬ (_ ∧ _) from hfar)]
    have hend : stop + (bytes.length - stop) = max stop bytes.length := by omega
    refine ((hcompose.ending storage (.inl rfl) .close).bind ((hask .copyMode).bind (hask .rename))).congr
      fun op => ?_
    simp [Takes, hfar, hstart, hend, Nat.min_eq_left hreach, Nat.not_lt.2 hreach, or_assoc, or_left_comm]

/-- The work of a storage that refuses nothing once there is a draft. -/
theorem fill_eq (hquiet : ∀ op, op ≠ .create → storage.fault op = none) :
    storage.fill chunk bytes start stop block (w.draft p []) =
      if bytes.length < start then .error (.early (start - bytes.length)) (w.draft p bytes)
      else
        match block.encode with
        | .error fault => .error (.unencodable fault) (w.draft p (bytes.take start))
        | .ok encoded =>
          if TooFar bytes.length stop then .error .offset (w.draft p (bytes.take start ++ encoded))
          else .ok () (w.draft p (replaceRange bytes start stop encoded)) := by
  split
  · rename_i hshort
    obtain ⟨-, hfill⟩ | ⟨op, reason, -, htakes, hfault, -⟩ := storage.fill_short hfree hchunk bytes block hshort
    · exact hfill
    · have hop : op ≠ .create := by
        rcases htakes with (h | rfl) | rfl
        · exact h.ne_create
        · simp
        · simp
      cases hfault.symm.trans (hquiet op hop)
  · rename_i hreach
    cases hblock : block.encode with
    | error fault =>
      obtain ⟨-, hfill⟩ | ⟨op, reason, -, htakes, hfault, -⟩ :=
        storage.fill_unencodable hfree hchunk bytes block stop (Nat.le_of_not_lt hreach) hblock
      · exact hfill
      · cases hfault.symm.trans (hquiet op htakes.ne_create)
    | ok encoded =>
      obtain ⟨hscalar, rfl⟩ := CodeText.encode_eq_ok_iff.1 hblock
      obtain ⟨-, hfill⟩ | ⟨op, reason, -, htakes, hfault, -⟩ :=
        storage.fill_runs hfree hchunk bytes block (Nat.le_of_not_lt hreach) hscalar
      · exact hfill
      · cases hfault.symm.trans (hquiet op htakes.ne_create)

end

end Storage

end RouteDoc
