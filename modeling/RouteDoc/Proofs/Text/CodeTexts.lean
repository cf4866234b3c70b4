/-
Texts of code points and their bytes.

A text has bytes exactly where all of its code points are characters
(`encode_eq_ok_iff`), and then it is a text of characters (`scalar_iff`).
-/
import Mathlib.Data.List.Basic
import Mathlib.Data.List.Infix
import RouteDoc.Text.CodeText

namespace RouteDoc.CodeText

variable {s t : CodeText} {a b : String}

/-! ## Texts of characters -/

@[simp] theorem ofString_append (a b : String) : ofString (a ++ b) = ofString a ++ ofString b := by
  simp [ofString, ofChars]

@[simp] theorem ofString_ofList (cs : List Char) : ofString (String.ofList cs) = ofChars cs := by
  rw [ofString, String.toList_ofList]

theorem char_injective : Function.Injective CodePoint.char := fun _ _ h => CodePoint.char.inj h

theorem ofString_injective : Function.Injective ofString := fun _ _ h =>
  String.toList_inj.1 (List.map_injective_iff.2 char_injective h)

@[simp] theorem ofString_inj : ofString a = ofString b ↔ a = b := ofString_injective.eq_iff

@[simp] theorem ofString_beq (a b : String) : (ofString a == ofString b) = (a == b) := by
  rw [Bool.eq_iff_iff, beq_iff_eq, beq_iff_eq, ofString_inj]

@[simp] theorem char_mem_ofChars {c : Char} {cs : List Char} : CodePoint.char c ∈ ofChars cs ↔ c ∈ cs :=
  List.mem_map_of_injective char_injective

@[simp] theorem char_mem_ofString {c : Char} : CodePoint.char c ∈ ofString a ↔ c ∈ a.toList := char_mem_ofChars

theorem ofString_prefix_iff : ofString a <+: ofString b ↔ a.toList <+: b.toList :=
  List.prefix_map_iff_of_injective char_injective

/-! ## Bytes -/

@[simp] theorem utf8_append (s t : CodeText) : (s ++ t).utf8 = s.utf8 ++ t.utf8 := List.flatMap_append

@[simp] theorem utf8_ofString (a : String) : (ofString a).utf8 = Text.utf8 a := List.flatMap_map ..

/-- A text without surrogates. -/
def Scalar (t : CodeText) : Prop := ∀ p ∈ t, p.isChar = true

instance (t : CodeText) : Decidable t.Scalar := inferInstanceAs (Decidable (∀ p ∈ t, p.isChar = true))

@[simp] theorem scalar_append : (s ++ t).Scalar ↔ s.Scalar ∧ t.Scalar := List.forall_mem_append

@[simp] theorem scalar_ofString (a : String) : (ofString a).Scalar := by
  simp [Scalar, ofString, ofChars, CodePoint.isChar]

/-- A text without surrogates is a text of characters. -/
theorem scalar_iff : t.Scalar ↔ ∃ a : String, t = a := by
  refine ⟨fun h => ?_, fun ⟨a, ha⟩ => ha ▸ scalar_ofString a⟩
  induction t with
  | nil => exact ⟨"", rfl⟩
  | cons p t ih =>
    obtain ⟨hp, ht⟩ := List.forall_mem_cons.1 h
    obtain ⟨a, rfl⟩ := ih ht
    cases p with
    | char c => exact ⟨String.ofList (c :: a.toList), by simp [ofChars, ofString]⟩
    | surrogate n => cases hp

theorem faultFrom_eq_none_iff (here : Nat) (t : CodeText) : faultFrom here t = none ↔ t.Scalar := by
  induction t generalizing here with
  | nil => simp [faultFrom, Scalar]
  | cons p t ih =>
    cases p with
    | char c => simpa [faultFrom, Scalar, CodePoint.isChar] using ih (here + 1)
    | surrogate n => simp [faultFrom, Scalar, CodePoint.isChar]

/-- **Which texts have bytes**: those without surrogates, and their bytes are those of their characters. -/
theorem encode_eq_ok_iff {bytes : List UInt8} : t.encode = .ok bytes ↔ t.Scalar ∧ t.utf8 = bytes := by
  rw [← faultFrom_eq_none_iff 0, encode]
  cases faultFrom 0 t with
  | none => simp
  | some fault => simp

theorem encode_of_scalar (h : t.Scalar) : t.encode = .ok t.utf8 := encode_eq_ok_iff.2 ⟨h, rfl⟩

theorem not_scalar_of_fault {fault : EncodeFault} (h : t.encode = .error fault) : ¬t.Scalar := fun hs =>
  absurd ((encode_of_scalar hs).symm.trans h) (by simp)

/-- The number of bytes of a text, where it has some. -/
def size? (t : CodeText) : Option Nat := t.encode.toOption.map List.length

theorem size?_of_scalar (h : t.Scalar) : t.size? = some t.utf8.length := by
  rw [size?, encode_of_scalar h]
  rfl

theorem size?_of_fault {fault : EncodeFault} (h : t.encode = .error fault) : t.size? = none := by
  rw [size?, h]
  rfl

/-- The escape of a byte that is no character has no bytes itself. -/
example : (encode [.surrogate 0x4FF]).toOption = none ∧
    EncodeFault.message ⟨0, 0x4FF, 0⟩ =
      "'utf-8' codec can't encode character '\\udcff' in position 0: surrogates not allowed" := by decide

end RouteDoc.CodeText
