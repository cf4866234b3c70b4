/-
Ranges of a text replaced one after the other, and all at once.

`replaceRanges` replaces ranges of a text that lie in order, each by a text of
its own, and keeps every other byte. `applyEdits` replaces one range after the
other and does not look where the ranges went. From the last range to the first
that is the same (`applyEdits_reverse`): in front of the ranges that are done the
text is still the old one.
-/
import RouteDoc.Splice

namespace RouteDoc

/-- A range of a text, and what stands there afterwards. -/
structure Edit where
  start : Nat
  stop : Nat
  block : List UInt8
  deriving DecidableEq

/-- Ranges in order in a text of a length, from a place on. -/
def Ascending (length : Nat) : Nat → List Edit → Prop
  | here, [] => here ≤ length
  | here, e :: edits => here ≤ e.start ∧ e.start ≤ e.stop ∧ Ascending length e.stop edits

/-- The text from `here` on, with ranges replaced. -/
def replaceRanges (source : List UInt8) (here : Nat) : List Edit → List UInt8
  | [] => source.drop here
  | e :: edits => (source.drop here).take (e.start - here) ++ e.block ++ replaceRanges source e.stop edits

/-- The text with ranges replaced, one after the other. -/
def applyEdits (source : List UInt8) (edits : List Edit) : List UInt8 :=
  edits.foldl (fun bytes e => replaceRange bytes e.start e.stop e.block) source

/-- A range that is replaced leaves what is in front of it. -/
theorem le_length_replaceRange {bytes block : List UInt8} {n start stop : Nat} (hn : n ≤ bytes.length)
    (hstart : n ≤ start) : n ≤ (replaceRange bytes start stop block).length := by
  simp only [replaceRange, List.length_append, List.length_take]
  omega

theorem le_length_applyEdits {source : List UInt8} {edits : List Edit} {n : Nat} (hn : n ≤ source.length)
    (hedits : ∀ e ∈ edits, n ≤ e.start) : n ≤ (applyEdits source edits).length := by
  induction edits generalizing source with
  | nil => exact hn
  | cons e edits ih =>
    obtain ⟨hstart, hedits⟩ := List.forall_mem_cons.1 hedits
    exact ih (le_length_replaceRange hn hstart) hedits

theorem Ascending.le {length here : Nat} {edits : List Edit} (h : Ascending length here edits) :
    here ≤ length := by
  induction edits generalizing here with
  | nil => exact h
  | cons e edits ih => exact Nat.le_trans h.1 (Nat.le_trans h.2.1 (ih h.2.2))

/-- In front of the ranges the text stays as it was. -/
theorem replaceRanges_take {source : List UInt8} {here there : Nat} {edits : List Edit}
    (h : Ascending source.length there edits) (hle : here ≤ there) :
    replaceRanges source here edits =
      (source.drop here).take (there - here) ++ replaceRanges source there edits := by
  cases edits with
  | nil =>
    have hcut := List.take_append_drop (there - here) (source.drop here)
    rw [List.drop_drop, Nat.add_sub_cancel' hle] at hcut
    exact hcut.symm
  | cons e edits =>
    obtain ⟨hstart, -⟩ := h
    rw [replaceRanges, replaceRanges, ← List.append_assoc, ← List.append_assoc]
    congr 2
    have hsum : e.start - here = (there - here) + (e.start - there) := by omega
    rw [hsum, List.take_add, List.drop_drop, Nat.add_sub_cancel' hle]

/-- One more range in front of those that are done. -/
theorem replaceRange_replaceRanges {source : List UInt8} {e : Edit} {edits : List Edit}
    (h : Ascending source.length 0 (e :: edits)) :
    replaceRange (replaceRanges source 0 edits) e.start e.stop e.block =
      replaceRanges source 0 (e :: edits) := by
  obtain ⟨-, hle, hrest⟩ := h
  have hlen : (source.take e.stop).length = e.stop := List.length_take_of_le hrest.le
  have hfront : replaceRanges source 0 edits = source.take e.stop ++ replaceRanges source e.stop edits := by
    rw [replaceRanges_take hrest (Nat.zero_le _)]
    simp
  unfold replaceRange
  rw [hfront, List.drop_left' hlen, List.take_append_of_le_length (by omega), List.take_take,
    Nat.min_eq_left hle]
  rfl

/-- **From the last range to the first**, one after the other is all at once. -/
theorem applyEdits_reverse {source : List UInt8} {edits : List Edit}
    (h : Ascending source.length 0 edits) :
    applyEdits source edits.reverse = replaceRanges source 0 edits := by
  induction edits with
  | nil => rfl
  | cons e edits ih =>
    have hrest : Ascending source.length 0 edits := by
      cases edits with
      | nil => exact Nat.zero_le _
      | cons e' edits => exact ⟨Nat.zero_le _, h.2.2.2⟩
    unfold applyEdits at ih ⊢
    rw [List.reverse_cons, List.foldl_append, ih hrest]
    exact replaceRange_replaceRanges h

end RouteDoc
