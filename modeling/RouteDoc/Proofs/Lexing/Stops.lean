/-
Numbers, names and signs stop.

A blank, a line end, a semicolon or a slash goes on no number, name or sign, so
what stands behind such a byte does not matter to them: `numberLength_stop`,
`nameLength_stop`, `signAt_stop`. Characters beyond ASCII are read byte by byte;
`Encodes` says which bytes make up one.
-/
import Mathlib.Data.List.Find
import RouteDoc.Proofs.Lexing.Pieces

namespace RouteDoc.Go

/-! ## Bytes that stop a lexeme -/

/-- The bytes that no number, name or sign goes on with. -/
def isStop (h : UInt8) : Bool := isBlankByte h || h == 0x0A || h == 0x3B || h == 0x2F

theorem isStop_cases {h : UInt8} (hh : isStop h = true) :
    h = 0x20 ∨ h = 0x09 ∨ h = 0x0B ∨ h = 0x0C ∨ h = 0x0D ∨ h = 0x0A ∨ h = 0x3B ∨ h = 0x2F := by
  simp only [isStop, isBlankByte, Bool.or_eq_true, beq_iff_eq] at hh
  grind

/-- What decides whether a number goes on is false of a byte that stops. -/
theorem isStop_number {h : UInt8} (hh : isStop h = true) :
    isDecimalByte h = false ∧ isOctalByte h = false ∧ isBinaryByte h = false ∧ isHexByte h = false ∧
      h ≠ 0x5F ∧ h ≠ 0x2E ∧ h ≠ 0x69 := by
  rcases isStop_cases hh with rfl | rfl | rfl | rfl | rfl | rfl | rfl | rfl <;> decide

theorem isStop_letter {h : UInt8} (hh : isStop h = true) :
    h < 0x80 ∧ Text.isContinuation h = false ∧ Text.isIdentifierContinue (Char.ofNat h.toNat) = false := by
  rcases isStop_cases hh with rfl | rfl | rfl | rfl | rfl | rfl | rfl | rfl <;> decide

/-- A length of what a text starts with that nothing behind `h` changes. -/
def Confined (h : UInt8) (f : List UInt8 → Nat) : Prop :=
  ∀ y t, f (y ++ h :: t) = f (y ++ [h]) ∧ f (y ++ [h]) ≤ y.length

/-! ## Numbers -/

section Numbers

variable {h : UInt8} {isDigit : UInt8 → Bool}

theorem digitsLength_of_not {b : UInt8} (hb : isDigit b = false) (rest : List UInt8) :
    digitsLength isDigit (b :: rest) = 0 := by
  unfold digitsLength
  split <;> simp_all

theorem digitsLength_step {b c : UInt8} (hb : isDigit b = true) (hc : c ≠ 0x5F) (rest : List UInt8) :
    digitsLength isDigit (b :: c :: rest) = digitsLength isDigit (c :: rest) + 1 := by
  rw [digitsLength, if_pos hb]
  intro _ _ he
  exact absurd he hc

theorem digitsLength_confined (hd : isDigit h = false) (hu : h ≠ 0x5F) :
    Confined h (digitsLength isDigit) := by
  intro y t
  induction hn : y.length using Nat.strongRecOn generalizing y with
  | _ n ih =>
    subst hn
    match y with
    | [] => simp [digitsLength_of_not hd]
    | b :: y =>
      cases hb : isDigit b with
      | false => simp [digitsLength_of_not hb]
      | true =>
        match y with
        | [] => simp [digitsLength_step hb hu, digitsLength_of_not hd]
        | c :: y =>
          by_cases hc : c = 0x5F
          · subst hc
            match y with
            | [] => simp [digitsLength, hb, hd]
            | c' :: y =>
              have h2 := ih (y.length + 1) (by simp) (c' :: y) rfl
              simp only [List.cons_append, List.length_cons] at h2 ⊢
              simp only [digitsLength, hb, if_true, h2.1, true_and]
              split <;> omega
          · have h1 := ih (y.length + 1) (by simp) (c :: y) rfl
            simp only [List.cons_append, List.length_cons] at h1 ⊢
            simp only [digitsLength_step hb hc, h1.1, true_and]
            omega

theorem looseDigitsLength_confined (hd : isDigit h = false) (hu : h ≠ 0x5F) :
    Confined h (looseDigitsLength isDigit) := by
  intro y t
  match y with
  | [] => simp [looseDigitsLength, hu, digitsLength_of_not hd]
  | b :: y =>
    by_cases hb : b = 0x5F
    · subst hb
      obtain ⟨he, hle⟩ := digitsLength_confined hd hu y t
      simp only [List.cons_append, looseDigitsLength, he, List.length_cons, true_and]
      split <;> omega
    · simpa [looseDigitsLength, hb] using digitsLength_confined hd hu (b :: y) t

theorem exponentLength_confined (hh : isStop h = true) {small capital : UInt8} (hs : h ≠ small)
    (hc : h ≠ capital) : Confined h (exponentLength small capital) := by
  intro y t
  obtain ⟨hd, -, -, -, hu, -, -⟩ := isStop_number hh
  have hplus : h ≠ 0x2B ∧ h ≠ 0x2D := by
    rcases isStop_cases hh with rfl | rfl | rfl | rfl | rfl | rfl | rfl | rfl <;> decide
  match y with
  | [] => simp [exponentLength, hs, hc]
  | b :: y =>
    simp only [List.cons_append, exponentLength]
    split
    · match y with
      | [] => simp [hplus, digitsLength_of_not hd]
      | c :: y =>
        by_cases hsign : (c == 0x2B || c == 0x2D) = true
        · obtain ⟨he, hle⟩ := digitsLength_confined hd hu y t
          simp only [List.cons_append, hsign, if_true, List.drop_succ_cons, List.drop_zero, he,
            List.length_cons, true_and]
          split <;> omega
        · obtain ⟨he, hle⟩ := digitsLength_confined hd hu (c :: y) t
          simp only [List.cons_append, List.length_cons] at he hle
          simp only [List.cons_append, hsign, Bool.false_eq_true, if_false, he, List.length_cons, true_and]
          split <;> omega
    · simp

/-- Of a text of at least two bytes, with the mark of a base. -/
theorem markedLength_confined (hd : isDigit h = false) (hu : h ≠ 0x5F) (a b : UInt8) (y t : List UInt8) :
    markedLength isDigit (a :: b :: y ++ h :: t) = markedLength isDigit (a :: b :: y ++ [h]) ∧
      markedLength isDigit (a :: b :: y ++ [h]) ≤ y.length + 2 := by
  obtain ⟨he, hle⟩ := looseDigitsLength_confined hd hu y t
  simp only [markedLength, List.cons_append, List.drop_succ_cons, List.drop_zero, he, true_and]
  split <;> omega

theorem integerLength_confined (hh : isStop h = true) : Confined h integerLength := by
  intro y t
  obtain ⟨hd, ho, hb, hx, hu, -, -⟩ := isStop_number hh
  match y with
  | [] =>
    have h0 : h ≠ 0x30 := by rintro rfl; simp [isStop, isBlankByte] at hh
    simp [integerLength, h0, digitsLength_of_not hd]
  | [a] => 
    by_cases ha : a = 0x30
    · subst ha
      rcases isStop_cases hh with rfl | rfl | rfl | rfl | rfl | rfl | rfl | rfl <;>
        simp [integerLength, looseDigitsLength, digitsLength_of_not ho]
    · simpa [integerLength, ha] using digitsLength_confined hd hu [a] t
  | a :: b :: y =>
    by_cases ha : a = 0x30
    · subst ha
      obtain ⟨he, hle⟩ := looseDigitsLength_confined ho hu (b :: y) t
      simp only [List.cons_append, integerLength]
      split
      · exact markedLength_confined hx hu ..
      · split
        · exact markedLength_confined hb hu ..
        · split
          · exact markedLength_confined ho hu ..
          · simpa using ⟨he, hle⟩
    · simpa [integerLength, ha] using digitsLength_confined hd hu (a :: b :: y) t

/-- What follows a run of digits: a dot with more digits, or no dot. -/
theorem dot_cases (hdot : h ≠ 0x2E) (z : List UInt8) :
    (∃ z', z = 0x2E :: z') ∨ ∀ t rest, z ++ h :: t = 0x2E :: rest → False := by
  match z with
  | [] => exact .inr fun t rest he => hdot (by simp at he; exact he.1)
  | c :: z =>
    by_cases hc : c = 0x2E
    · exact .inl ⟨z, by rw [hc]⟩
    · exact .inr fun t rest he => hc (by simp at he; exact he.1)

theorem decimalFloatLength_of_not_dot {s : List UInt8}
    (hs : ∀ rest, s.drop (digitsLength isDecimalByte s) = 0x2E :: rest → False) :
    decimalFloatLength s =
      (if digitsLength isDecimalByte s == 0 ||
          exponentLength 0x65 0x45 (s.drop (digitsLength isDecimalByte s)) == 0 then 0
        else digitsLength isDecimalByte s +
          exponentLength 0x65 0x45 (s.drop (digitsLength isDecimalByte s))) := by
  unfold decimalFloatLength
  dsimp only
  split
  · rename_i rest he; exact (hs rest he).elim
  · rfl

theorem decimalFloatLength_confined (hh : isStop h = true) : Confined h decimalFloatLength := by
  intro y t
  obtain ⟨hd, -, -, -, hu, hdot, -⟩ := isStop_number hh
  have hexp : Confined h (exponentLength 0x65 0x45) := by
    apply exponentLength_confined hh <;>
      rcases isStop_cases hh with rfl | rfl | rfl | rfl | rfl | rfl | rfl | rfl <;> decide
  obtain ⟨hw, hwle⟩ := digitsLength_confined hd hu y t
  have hlen : (y.drop (digitsLength isDecimalByte (y ++ [h]))).length =
    y.length - digitsLength isDecimalByte (y ++ [h]) := List.length_drop ..
  rcases dot_cases hdot (y.drop (digitsLength isDecimalByte (y ++ [h]))) with ⟨z, hz⟩ | hz
  · obtain ⟨hn, hnle⟩ := digitsLength_confined hd hu z t
    obtain ⟨he, hele⟩ := hexp (z.drop (digitsLength isDecimalByte (z ++ [h]))) t
    simp only [decimalFloatLength, hw, List.drop_append_of_le_length hwle, hz, List.cons_append, hn,
      List.drop_append_of_le_length hnle, he, true_and]
    simp only [hz, List.length_cons, List.length_drop] at hlen hele
    split <;> omega
  · obtain ⟨he, hele⟩ := hexp (y.drop (digitsLength isDecimalByte (y ++ [h]))) t
    rw [decimalFloatLength_of_not_dot (by simpa only [hw, List.drop_append_of_le_length hwle] using hz t),
      decimalFloatLength_of_not_dot (by simpa only [List.drop_append_of_le_length hwle] using hz [])]
    simp only [hw, List.drop_append_of_le_length hwle, he, true_and]
    split <;> omega

/-- The length of the digits of a hexadecimal floating point number behind its mark, with the dot
in them. -/
def hexMantissa (s : List UInt8) : Nat :=
  match s.drop (looseDigitsLength isHexByte s) with
  | 0x2E :: rest =>
    if looseDigitsLength isHexByte s == 0 && digitsLength isHexByte rest == 0 then 0
    else looseDigitsLength isHexByte s + 1 + digitsLength isHexByte rest
  | _ => looseDigitsLength isHexByte s

theorem hexMantissa_confined (hh : isStop h = true) : Confined h hexMantissa := by
  intro y t
  obtain ⟨-, -, -, hx, hu, hdot, -⟩ := isStop_number hh
  obtain ⟨hw, hwle⟩ := looseDigitsLength_confined hx hu y t
  have hlen : (y.drop (looseDigitsLength isHexByte (y ++ [h]))).length =
    y.length - looseDigitsLength isHexByte (y ++ [h]) := List.length_drop ..
  simp only [hexMantissa, hw, List.drop_append_of_le_length hwle]
  rcases dot_cases hdot (y.drop (looseDigitsLength isHexByte (y ++ [h]))) with ⟨z, hz⟩ | hz
  · obtain ⟨hn, hnle⟩ := digitsLength_confined hx hu z t
    simp only [hz, List.cons_append, hn, true_and]
    simp only [hz, List.length_cons] at hlen
    split <;> omega
  · constructor
    · split
      · rename_i heq; exact (hz _ _ heq).elim
      · split
        · rename_i heq; exact (hz _ _ heq).elim
        · rfl
    · split
      · rename_i heq; exact (hz _ _ heq).elim
      · exact hwle

theorem hexFloatLength_eq (a b : UInt8) (s : List UInt8) :
    hexFloatLength (a :: b :: s) =
      if !isHexMarked [a, b] then 0
      else if hexMantissa s == 0 then 0
      else if exponentLength 0x70 0x50 (s.drop (hexMantissa s)) == 0 then 0
      else 2 + hexMantissa s + exponentLength 0x70 0x50 (s.drop (hexMantissa s)) := by
  have hm : isHexMarked (a :: b :: s) = isHexMarked [a, b] := by
    by_cases ha : a = 0x30 <;> simp [isHexMarked, ha]
  have hdrop : ∀ n, (a :: b :: s).drop (2 + n) = s.drop n := fun n => by rw [Nat.add_comm]; simp
  simp only [hexFloatLength, hm, hdrop, hexMantissa]
  rfl

theorem hexFloatLength_confined (hh : isStop h = true) : Confined h hexFloatLength := by
  intro y t
  have hexp : Confined h (exponentLength 0x70 0x50) := by
    apply exponentLength_confined hh <;>
      rcases isStop_cases hh with rfl | rfl | rfl | rfl | rfl | rfl | rfl | rfl <;> decide
  match y with
  | [] =>
    have h0 : h ≠ 0x30 := by rintro rfl; simp [isStop, isBlankByte] at hh
    simp [hexFloatLength, isHexMarked, h0]
  | [a] =>
    rcases isStop_cases hh with rfl | rfl | rfl | rfl | rfl | rfl | rfl | rfl <;>
      (by_cases ha : a = 0x30 <;> simp [hexFloatLength, isHexMarked, ha])
  | a :: b :: y =>
    obtain ⟨hw, hwle⟩ := hexMantissa_confined hh y t
    obtain ⟨he, hele⟩ := hexp (y.drop (hexMantissa (y ++ [h]))) t
    simp only [List.length_drop] at hele
    simp only [List.cons_append, hexFloatLength_eq, hw, List.drop_append_of_le_length hwle, he, true_and,
      List.length_cons]
    split
    · omega
    · split
      · omega
      · split <;> omega

theorem imaginaryLength_stop (hh : isStop h = true) {n : Nat} {y : List UInt8} (hn : n ≤ y.length)
    (t : List UInt8) : imaginaryLength (y ++ h :: t) n = imaginaryLength (y ++ [h]) n := by
  obtain ⟨-, -, -, -, -, -, hi⟩ := isStop_number hh
  simp only [imaginaryLength, List.drop_append_of_le_length hn]
  match y.drop n with
  | [] => simp [hi]
  | c :: z => by_cases hc : c = 0x69 <;> simp [hc]

/-- **Numbers stop**: what lies behind a byte that stops does not change the number before it. -/
theorem numberLength_stop (hh : isStop h = true) (y t : List UInt8) :
    numberLength (y ++ h :: t) = numberLength (y ++ [h]) := by
  obtain ⟨hd, -, -, -, hu, -, -⟩ := isStop_number hh
  have hhead : (y ++ h :: t).head? = (y ++ [h]).head? := by cases y <;> rfl
  obtain ⟨h1, h1le⟩ := digitsLength_confined hd hu y t
  obtain ⟨h2, h2le⟩ := integerLength_confined hh y t
  obtain ⟨h3, h3le⟩ := decimalFloatLength_confined hh y t
  obtain ⟨h4, h4le⟩ := hexFloatLength_confined hh y t
  simp only [numberLength, hhead, h1, h2, h3, h4, List.foldl_cons, List.foldl_nil,
    imaginaryLength_stop hh h1le, imaginaryLength_stop hh h2le, imaginaryLength_stop hh h3le,
    imaginaryLength_stop hh h4le]

end Numbers

/-! ## Characters, names and signs -/

/-- The lead byte and the continuation bytes of a character. -/
inductive Encodes : UInt8 → List UInt8 → Char → Prop where
  | one {b} : b < 0x80 → Encodes b [] (Char.ofNat b.toNat)
  | two {b b2} : ¬b < 0xC2 → b < 0xE0 → Text.isContinuation b2 = true →
      Encodes b [b2] (Char.ofNat (b.toNat % 32 * 64 + Text.low6 b2))
  | three {b b2 b3} : ¬b < 0xE0 → b < 0xF0 → Text.fitsSecond b b2 = true →
      Text.isContinuation b3 = true →
      Encodes b [b2, b3] (Char.ofNat (b.toNat % 16 * 4096 + Text.low6 b2 * 64 + Text.low6 b3))
  | four {b b2 b3 b4} : ¬b < 0xF0 → b < 0xF5 → Text.fitsSecond b b2 = true →
      Text.isContinuation b3 = true → Text.isContinuation b4 = true →
      Encodes b [b2, b3, b4] (Char.ofNat
        (b.toNat % 8 * 262144 + Text.low6 b2 * 4096 + Text.low6 b3 * 64 + Text.low6 b4))

theorem Encodes.of_readChar {b : UInt8} {rest : List UInt8} {c : Char} {more : Nat}
    (hr : Text.readChar b rest = .char c more) : more ≤ rest.length ∧ Encodes b (rest.take more) c := by
  unfold Text.readChar at hr
  repeat' split at hr
  all_goals cases hr
  · exact ⟨Nat.zero_le _, .one ‹_›⟩
  · exact ⟨by simp, .two ‹_› ‹_› ‹_›⟩
  · exact ⟨by simp, .three ‹_› ‹_› (by simpa using ‹¬(!_) = true›) ‹_›⟩
  · exact ⟨by simp, .four ‹_› ‹_› (by simp_all) (by simp_all) ‹_›⟩

theorem Encodes.readChar {b : UInt8} {tail : List UInt8} {c : Char} (h : Encodes b tail c)
    (s : List UInt8) : Text.readChar b (tail ++ s) = .char c tail.length := by
  cases h with
  | one hb => simp [Text.readChar, hb]
  | two h1 h2 h3 =>
    have h80 : ¬b < 0x80 := fun h => h1 (UInt8.lt_trans h (by decide))
    simp [Text.readChar, h80, h1, h2, h3]
  | three h1 h2 h3 h4 =>
    have h80 : ¬b < 0x80 := fun h => h1 (UInt8.lt_trans h (by decide))
    have hC2 : ¬b < 0xC2 := fun h => h1 (UInt8.lt_trans h (by decide))
    simp [Text.readChar, h80, hC2, h1, h2, h3, h4]
  | four h1 h2 h3 h4 h5 =>
    have h80 : ¬b < 0x80 := fun h => h1 (UInt8.lt_trans h (by decide))
    have hC2 : ¬b < 0xC2 := fun h => h1 (UInt8.lt_trans h (by decide))
    have hE0 : ¬b < 0xE0 := fun h => h1 (UInt8.lt_trans h (by decide))
    simp [Text.readChar, h80, hC2, hE0, h1, h2, h3, h4, h5]

theorem Encodes.continues {b : UInt8} {tail : List UInt8} {c : Char} (h : Encodes b tail c) :
    ∀ x ∈ tail, Text.isContinuation x = true := by
  cases h with
  | one => simp
  | two _ _ h => simpa using h
  | three _ _ h h' | four _ _ h h' => 
    simp only [Text.fitsSecond, Bool.and_eq_true] at h
    simp_all

/-- A character looks at no more than its own bytes. -/
theorem readChar_char {b : UInt8} {y s s' : List UInt8} {c : Char} {more : Nat}
    (hr : Text.readChar b (y ++ s) = .char c more) (hle : more ≤ y.length) :
    Text.readChar b (y ++ s') = .char c more := by
  have he := (Encodes.of_readChar hr).2
  rw [List.take_append_of_le_length hle] at he
  have h := he.readChar (y.drop more ++ s')
  rwa [← List.append_assoc, List.take_append_drop, List.length_take_of_le hle] at h

/-- A byte that continues no character ends the character before it. -/
theorem readChar_stop {h : UInt8} (hh : Text.isContinuation h = false) (b : UInt8) (y t : List UInt8) :
    Text.readChar b (y ++ h :: t) = Text.readChar b (y ++ [h]) := by
  have hf : ∀ lead, Text.fitsSecond lead h = false := fun lead => by simp [Text.fitsSecond, hh]
  match y with
  | [] => simp [Text.readChar, hh, hf]
  | [b2] => simp [Text.readChar, hh]
  | [b2, b3] => simp [Text.readChar, hh]
  | b2 :: b3 :: b4 :: y => simp [Text.readChar]

theorem readChar_more_le {h : UInt8} (hh : Text.isContinuation h = false) {b : UInt8} {y t : List UInt8}
    {c : Char} {more : Nat} (hr : Text.readChar b (y ++ h :: t) = .char c more) : more ≤ y.length := by
  obtain ⟨-, he⟩ := Encodes.of_readChar hr
  rcases Nat.lt_or_ge y.length more with hlt | hge
  · have hmem : h ∈ (y ++ h :: t).take more := by
      rw [List.take_append, List.mem_append]
      obtain ⟨k, hk⟩ : ∃ k, more - y.length = k + 1 := ⟨more - y.length - 1, by omega⟩
      exact .inr (by simp [hk])
    rw [he.continues h hmem] at hh
    cases hh
  · exact hge

theorem nameLength_stop {h : UInt8} (hh : isStop h = true) (y t : List UInt8) (skip n : Nat)
    (hskip : skip ≤ y.length) : nameLength skip n (y ++ h :: t) = nameLength skip n (y ++ [h]) := by
  obtain ⟨hlt, hc, hi⟩ := isStop_letter hh
  induction y generalizing skip n with
  | nil =>
    obtain rfl : skip = 0 := by simpa using hskip
    simp [nameLength, Text.readChar, hlt, hi]
  | cons b y ih =>
    cases skip with
    | succ skip => exact ih skip (n + 1) (by simpa using hskip)
    | zero =>
      simp only [List.cons_append, nameLength, readChar_stop hc b y t]
      cases hr : Text.readChar b (y ++ [h]) with
      | char c more =>
        simp only
        split
        · exact ih more (n + 1) (readChar_more_le hc hr)
        · rfl
      | fault => rfl

theorem isPrefixOf_stop {h : UInt8} {e : List UInt8} (he : h ∉ e) (y t : List UInt8) :
    e.isPrefixOf (y ++ h :: t) = e.isPrefixOf (y ++ [h]) := by
  induction e generalizing y with
  | nil => simp
  | cons a e ih =>
    simp only [List.mem_cons, not_or] at he
    match y with
    | [] => simp [List.isPrefixOf, beq_false_of_ne (Ne.symm he.1)]
    | c :: y => simp only [List.cons_append, List.isPrefixOf, ih he.2]

theorem isStop_signTable {h : UInt8} (hh : isStop h = true) : ∀ e ∈ signTable, h ∉ e.1.tail := by
  rcases isStop_cases hh with rfl | rfl | rfl | rfl | rfl | rfl | rfl | rfl <;> decide

theorem signAt_stop {h : UInt8} (hh : isStop h = true) (b : UInt8) (y t : List UInt8) :
    signAt (b :: (y ++ h :: t)) = signAt (b :: (y ++ [h])) := by
  unfold signAt
  congr 1
  apply List.find?_congr
  intro e he
  have hne := isStop_signTable hh e he
  match hl : e.1 with
  | [] => simp
  | a :: rest =>
    rw [hl, List.tail_cons] at hne
    simp only [List.isPrefixOf, isPrefixOf_stop hne y t]

end RouteDoc.Go
