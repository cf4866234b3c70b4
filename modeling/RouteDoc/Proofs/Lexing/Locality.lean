/-
How far a lexeme looks ahead.

Comments and literals may run over any byte, but all that they look at belongs
to them; numbers, names and signs stop at the next byte that stops them. So a
lexeme that ends before such a byte does not depend on what follows it
(`lexemeAt_stop`), and a text can be changed behind a piece that closes: the
pieces in front of the change stay (`pieces_append`).
-/
import Mathlib.Tactic.SplitIfs
import RouteDoc.Proofs.Lexing.Stops

namespace RouteDoc.Go

/-! ## Comments and literals -/

theorem takeWhile_stop {p : UInt8 → Bool} {y t : List UInt8} {h : UInt8}
    (hle : ((y ++ h :: t).takeWhile p).length ≤ y.length) (t' : List UInt8) :
    (y ++ h :: t').takeWhile p = (y ++ h :: t).takeWhile p := by
  induction y with
  | nil =>
    cases hp : p h with
    | false => simp [hp]
    | true => simp [hp] at hle
  | cons b y ih =>
    simp only [List.cons_append, List.takeWhile_cons] at hle ⊢
    cases hp : p b with
    | false => rfl
    | true =>
      simp only [hp, if_true, List.length_cons] at hle ⊢
      rw [ih (by omega)]

theorem blockLength_lt {n m : Nat} {s : List UInt8} (h : blockLength n s = some m) : n + 1 < m := by
  fun_induction blockLength n s with
  | case1 => cases h
  | case2 => simp at h; omega
  | case3 => cases h
  | case4 _ _ _ _ _ ih => have := ih h; omega

theorem blockLength_append {n m : Nat} {y s s' : List UInt8} (h : blockLength n (y ++ s) = some m)
    (hle : m ≤ n + y.length) : blockLength n (y ++ s') = some m := by
  induction y generalizing n with
  | nil => have := blockLength_lt h; simp at hle; omega
  | cons b y ih =>
    match y with
    | [] => 
      have := blockLength_lt h
      simp at hle; omega
    | c :: y =>
      by_cases hb : b = 0x2A ∧ c = 0x2F
      · obtain ⟨rfl, rfl⟩ := hb
        simpa [blockLength] using h
      · have hne : ∀ u, blockLength n (b :: c :: u) = if b == 0 then none else blockLength (n + 1) (c :: u) := by
          intro u
          rw [blockLength]
          intro v he he'
          exact hb ⟨he, by simp_all⟩
        simp only [List.cons_append, hne] at h ⊢
        split at h
        · cases h
        · rename_i h0
          rw [if_neg h0]
          exact ih h (by simp only [List.length_cons] at hle ⊢; omega)

theorem rawLength_lt {n m : Nat} {s : List UInt8} (h : rawLength n s = some m) : n < m := by
  fun_induction rawLength n s with
  | case1 => cases h
  | case2 => simp at h; omega
  | case3 => cases h
  | case4 _ _ _ _ _ ih => have := ih h; omega

theorem rawLength_append {n m : Nat} {y s s' : List UInt8} (h : rawLength n (y ++ s) = some m)
    (hle : m ≤ n + y.length) : rawLength n (y ++ s') = some m := by
  induction y generalizing n with
  | nil => have := rawLength_lt h; simp at hle; omega
  | cons b y ih =>
    simp only [List.cons_append, rawLength, List.length_cons] at h hle ⊢
    split at h
    · simp_all
    · split at h
      · cases h
      · simp only [*]
        exact ih h (by omega)

theorem stringLength_lt {escaped : Bool} {n m : Nat} {s : List UInt8}
    (h : stringLength escaped n s = some m) : n < m := by
  fun_induction stringLength escaped n s with
  | case1 | case4 | case6 => cases h
  | case3 => simp at h; omega
  | case2 _ _ _ ih => have := ih h; omega
  | case5 _ _ _ _ _ _ _ _ _ ih => have := ih h; omega
  | case7 _ _ _ _ _ _ _ _ ih => have := ih h; omega

theorem isHexByte_ne {b : UInt8} (h : isHexByte b = true) : b ≠ 0x22 ∧ b ≠ 0x0A ∧ b ≠ 0 ∧ b ≠ 0x5C := by
  refine ⟨?_, ?_, ?_, ?_⟩ <;> (rintro rfl; revert h; decide)

/-- A string goes on over hexadecimal digits. -/
theorem stringLength_hex {count n m : Nat} {s : List UInt8} (hs : startsWithHex count s = true)
    (h : stringLength false n s = some m) : n + count < m := by
  induction count generalizing n s with
  | zero => simpa using stringLength_lt h
  | succ count ih =>
    match s with
    | [] => cases h
    | b :: s =>
      simp only [startsWithHex, List.take_succ_cons, List.length_cons, List.all_cons, Bool.and_eq_true,
        beq_iff_eq] at hs
      obtain ⟨h1, h2, h3, h4⟩ := isHexByte_ne hs.2.1
      simp only [stringLength, Bool.false_eq_true, if_false, beq_false_of_ne h1, beq_false_of_ne h2,
        beq_false_of_ne h3, beq_false_of_ne h4, Bool.or_self] at h
      have := ih (by simpa [startsWithHex, hs.2.2] using hs.1) h
      omega

theorem startsWithHex_append {count : Nat} {y s s' : List UInt8} (hle : count ≤ y.length) :
    startsWithHex count (y ++ s') = startsWithHex count (y ++ s) := by
  simp only [startsWithHex, List.take_append_of_le_length hle]

/-- What follows a backslash in a string belongs to the string. -/
theorem stringEscapeOk_append {n m : Nat} {y s s' : List UInt8} (hok : stringEscapeOk (y ++ s) = true)
    (h : stringLength true n (y ++ s) = some m) (hle : m ≤ n + y.length) :
    stringEscapeOk (y ++ s') = true := by
  match y with
  | [] => have := stringLength_lt h; simp at hle; omega
  | b :: y =>
    simp only [List.cons_append, stringLength, if_true, List.length_cons] at h hle
    simp only [List.cons_append, stringEscapeOk] at hok ⊢
    have hhex : ∀ {count}, startsWithHex count (y ++ s) = true → startsWithHex count (y ++ s') = true := by
      intro count hc
      have := stringLength_hex hc h
      rwa [startsWithHex_append (by omega)]
    split_ifs at hok ⊢
    · exact hhex hok
    · exact hhex hok
    · exact hhex hok
    · exact hok

theorem stringLength_append {escaped : Bool} {n m : Nat} {y s s' : List UInt8}
    (h : stringLength escaped n (y ++ s) = some m) (hle : m ≤ n + y.length) :
    stringLength escaped n (y ++ s') = some m := by
  induction y generalizing n escaped with
  | nil => have := stringLength_lt h; simp at hle; omega
  | cons b y ih =>
    have hle' : m ≤ n + 1 + y.length := by simp only [List.length_cons] at hle; omega
    simp only [List.cons_append, stringLength] at h ⊢
    split_ifs at h ⊢ with hesc hquote hend hslash hok' hok hok
    · exact ih h hle'
    · exact h
    · exact ih h hle'
    · exact absurd (stringEscapeOk_append hok h hle') hok'
    · exact ih h hle'

theorem runeEscapeLength_append {n : Nat} {y s s' : List UInt8} (h : runeEscapeLength (y ++ s) = some n)
    (hlt : n < y.length) : runeEscapeLength (y ++ s') = some n := by
  match y with
  | [] => simp at hlt
  | b :: y =>
    simp only [List.length_cons] at hlt
    simp only [List.cons_append, runeEscapeLength] at h ⊢
    have hhex : ∀ {count}, (if startsWithHex count (y ++ s) then some (count + 1) else none) = some n →
        (if startsWithHex count (y ++ s') then some (count + 1) else none) = some n := by
      intro count hc
      have hle : count ≤ y.length := by
        split at hc
        · cases hc; omega
        · cases hc
      rwa [startsWithHex_append (s := s) hle]
    by_cases h1 : (b == 0x78) = true
    · simp only [h1, if_true] at h ⊢; exact hhex h
    by_cases h2 : (b == 0x75) = true
    · simp only [h1, h2, if_true, if_false, Bool.false_eq_true] at h ⊢; exact hhex h
    by_cases h3 : (b == 0x55) = true
    · simp only [h1, h2, h3, if_true, if_false, Bool.false_eq_true] at h ⊢; exact hhex h
    by_cases h4 : isOctalByte b = true
    · simp only [h1, h2, h3, h4, if_true, if_false, Bool.false_eq_true] at h ⊢
      have hle : 2 ≤ y.length := by
        split at h
        · cases h; omega
        · cases h
      simp only [List.take_append_of_le_length hle] at h ⊢
      exact h
    · simp only [h1, h2, h3, h4, if_false, Bool.false_eq_true] at h ⊢
      exact h

/-- The character of a rune literal, behind which the closing quote stands. -/
theorem runeCharLength_append {n : Nat} {y s s' : List UInt8} (h : runeCharLength (y ++ s) = some n)
    (hquote : (y.drop n).head? = some 0x27) : runeCharLength (y ++ s') = some n := by
  have hlt : n < y.length := by
    rcases Nat.lt_or_ge n y.length with hlt | hge
    · exact hlt
    · simp [List.drop_eq_nil_of_le hge] at hquote
  match y with
  | [] => simp at hlt
  | b :: y =>
    simp only [List.length_cons] at hlt
    simp only [List.cons_append, runeCharLength] at h ⊢
    by_cases h1 : (b == 0x5C) = true
    · simp only [h1, if_true] at h ⊢
      obtain ⟨k, hk, rfl⟩ := Option.map_eq_some_iff.1 h
      rw [runeEscapeLength_append hk (by omega)]
      rfl
    by_cases h2 : (b == 0x27 || b == 0) = true
    · simp [h1, h2] at h
    simp only [h1, h2, if_false, Bool.false_eq_true] at h ⊢
    cases hr : Text.readChar b (y ++ s) with
    | char c more =>
      simp only [hr, Option.some.injEq] at h
      rw [readChar_char hr (by omega)]
      simpa using h
    | fault reason more =>
      -- The quote right behind the byte keeps it from being read with later bytes.
      simp only [hr, Option.some.injEq] at h
      subst h
      match y with
      | [] => simp at hquote
      | q :: y =>
        obtain rfl : q = 0x27 := by simpa using hquote
        have hs := readChar_stop (h := 0x27) (by decide) b [] (y ++ s)
        have hs' := readChar_stop (h := 0x27) (by decide) b [] (y ++ s')
        simp only [List.nil_append, List.cons_append] at hs hs' hr ⊢
        rw [hs', ← hs, hr]

theorem runeLength_append {m : Nat} {y s s' : List UInt8} (h : runeLength (y ++ s) = some m)
    (hle : m ≤ y.length) : runeLength (y ++ s') = some m := by
  simp only [runeLength, Option.bind_eq_bind, Option.bind_eq_some_iff] at h
  obtain ⟨n, hn, h⟩ := h
  have hm : m = n + 1 := by grind
  have hdrop : ∀ u, (y ++ u).drop n = y.drop n ++ u := fun u => List.drop_append_of_le_length (by omega)
  rw [hdrop] at h
  match hy : y.drop n with
  | [] => have := congrArg List.length hy; simp at this; omega
  | q :: z =>
    simp only [hy, List.cons_append] at h
    have hq : q = 0x27 := by grind
    have hc : runeCharLength (y ++ s') = some n := runeCharLength_append hn (by rw [hy, hq]; rfl)
    simp [runeLength, hc, hdrop, hy, hq, hm]

/-! ## Lexemes -/

/-- **What a lexeme looks at.** A lexeme that ends before a byte that stops does not depend on what
follows that byte. -/
theorem lexemeAt_stop {b h : UInt8} (hh : isStop h = true) {y t : List UInt8} {lexeme : Lexeme} {n : Nat}
    (hl : lexemeAt b (y ++ h :: t) = some (lexeme, n)) (hn : n ≤ y.length) (t' : List UInt8) :
    lexemeAt b (y ++ h :: t') = some (lexeme, n) := by
  have hhead : ∀ u, (y ++ h :: u).head? = (y ++ [h]).head? := fun u => by cases y <;> rfl
  obtain ⟨-, hc, -⟩ := isStop_letter hh
  unfold lexemeAt at hl ⊢
  simp only [hhead t, hhead t'] at hl ⊢
  by_cases h1 : isBlankByte b = true
  · simpa only [h1, if_true] using hl
  by_cases h2 : (b == 0x0A) = true
  · simpa only [h1, h2, if_true, if_false, Bool.false_eq_true] using hl
  by_cases h3 : (b == 0x2F && (y ++ [h]).head? == some 0x2F) = true
  · simp only [h1, h2, h3, if_true, if_false, Bool.false_eq_true, lineLength, Option.some.injEq,
      Prod.mk.injEq] at hl ⊢
    rw [takeWhile_stop (t := t) (by omega) t']
    exact hl
  by_cases h4 : (b == 0x2F && (y ++ [h]).head? == some 0x2A) = true
  · simp only [h1, h2, h3, h4, if_true, if_false, Bool.false_eq_true, Option.map_eq_some_iff,
      Prod.mk.injEq] at hl ⊢
    obtain ⟨m, hm, hlex, rfl⟩ := hl
    match y with
    | [] => have := blockLength_lt hm; simp at hn; omega
    | c :: y => exact ⟨m, blockLength_append hm (by simp only [List.length_cons] at hn; omega), hlex, rfl⟩
  by_cases h5 : (b == 0x22) = true
  · simp only [h1, h2, h3, h4, h5, if_true, if_false, Bool.false_eq_true, Option.map_eq_some_iff,
      Prod.mk.injEq] at hl ⊢
    obtain ⟨m, hm, hlex, rfl⟩ := hl
    exact ⟨m, stringLength_append hm (by omega), hlex, rfl⟩
  by_cases h6 : (b == 0x60) = true
  · simp only [h1, h2, h3, h4, h5, h6, if_true, if_false, Bool.false_eq_true, Option.map_eq_some_iff,
      Prod.mk.injEq] at hl ⊢
    obtain ⟨m, hm, hlex, rfl⟩ := hl
    exact ⟨m, rawLength_append hm (by omega), hlex, rfl⟩
  by_cases h7 : (b == 0x27) = true
  · simp only [h1, h2, h3, h4, h5, h6, h7, if_true, if_false, Bool.false_eq_true,
      Option.map_eq_some_iff, Prod.mk.injEq] at hl ⊢
    obtain ⟨m, hm, hlex, rfl⟩ := hl
    exact ⟨m, runeLength_append hm hn, hlex, rfl⟩
  have hnum : ∀ u, numberLength (b :: (y ++ h :: u)) = numberLength (b :: (y ++ [h])) :=
    fun u => numberLength_stop hh (b :: y) u
  simp only [h1, h2, h3, h4, h5, h6, h7, if_false, Bool.false_eq_true, hnum t, hnum t'] at hl ⊢
  by_cases h8 : (numberLength (b :: (y ++ [h])) != 0) = true
  · simpa only [h8, if_true] using hl
  simp only [h8, if_false, Bool.false_eq_true, readChar_stop hc b y t, readChar_stop hc b y t',
    signAt_stop hh b y t, signAt_stop hh b y t'] at hl ⊢
  cases hr : Text.readChar b (y ++ [h]) with
  | fault => simp [hr] at hl
  | char c more =>
    simp only [hr, nameLength_stop hh y t more 0 (readChar_more_le hc hr),
      nameLength_stop hh y t' more 0 (readChar_more_le hc hr)] at hl ⊢
    split at hl
    · simp only [Option.some.injEq, Prod.mk.injEq] at hl ⊢
      obtain ⟨hk, rfl⟩ := hl
      rw [List.take_append_of_le_length hn] at hk ⊢
      simp [*]
    · simp [*]

/-- What a lexeme at the start of a text can be. -/
inductive Reading (b : UInt8) (rest : List UInt8) : Lexeme → Nat → Prop where
  | blank : isBlankByte b = true → Reading b rest .blank 0
  | newline : b = 0x0A → Reading b rest .newline 0
  | line : b = 0x2F → rest.head? = some 0x2F → Reading b rest .comment (lineLength rest)
  | block {n} : b = 0x2F → rest.head? = some 0x2A → blockLength 1 (rest.drop 1) = some n →
      Reading b rest .comment n
  | literal {kind n} : kind = .text ∨ kind = .rune ∨ kind = .number → Reading b rest (.token kind) n
  | word {c more} : Text.readChar b rest = .char c more → Text.isIdentifierStart c = true →
      Reading b rest (.token (wordKind (b :: rest.take (nameLength more 0 rest)))) (nameLength more 0 rest)
  | sign {e} : e ∈ signTable → e.1.isPrefixOf (b :: rest) = true →
      Reading b rest (.token (.sign e.2)) (e.1.length - 1)

theorem Reading.of_lexemeAt {b : UInt8} {rest : List UInt8} {lexeme : Lexeme} {n : Nat}
    (h : lexemeAt b rest = some (lexeme, n)) : Reading b rest lexeme n := by
  unfold lexemeAt at h
  split at h
  · cases h; exact .blank ‹_›
  split at h
  · cases h; exact .newline (by simpa using ‹(b == 0x0A) = true›)
  split at h
  · rename_i hc
    simp only [Bool.and_eq_true, beq_iff_eq] at hc
    cases h; exact .line hc.1 hc.2
  split at h
  · rename_i hc
    simp only [Bool.and_eq_true, beq_iff_eq] at hc
    obtain ⟨m, hm, he⟩ := Option.map_eq_some_iff.1 h
    cases he; exact .block hc.1 hc.2 hm
  split at h
  · obtain ⟨m, -, he⟩ := Option.map_eq_some_iff.1 h
    cases he; exact .literal (.inl rfl)
  split at h
  · obtain ⟨m, -, he⟩ := Option.map_eq_some_iff.1 h
    cases he; exact .literal (.inl rfl)
  split at h
  · obtain ⟨m, -, he⟩ := Option.map_eq_some_iff.1 h
    cases he; exact .literal (.inr (.inl rfl))
  dsimp only at h
  split at h
  · cases h; exact .literal (.inr (.inr rfl))
  split at h
  · cases h
  split at h
  · cases h; exact .word ‹_› ‹_›
  · obtain ⟨⟨s, k⟩, hs, he⟩ := Option.map_eq_some_iff.1 h
    obtain ⟨e, hfind, hek⟩ := Option.map_eq_some_iff.1 hs
    cases he; cases hek
    have hpre := List.find?_some hfind
    exact .sign (List.mem_of_find?_eq_some hfind) hpre

theorem wordKind_cases (text : List UInt8) : wordKind text = .name ∨ ∃ k, wordKind text = .word k := by
  unfold wordKind
  split
  · exact .inr ⟨_, rfl⟩
  · exact .inl rfl

theorem signTable_semicolon : ∀ e ∈ signTable, e.2 = .semicolon → e.1 = [0x3B] := by decide

theorem lexemeAt_semicolon {b : UInt8} {rest : List UInt8} {n : Nat}
    (h : lexemeAt b rest = some (.token (.sign .semicolon), n)) : b = 0x3B ∧ n = 0 := by
  generalize hl : Lexeme.token (.sign .semicolon) = lexeme at h
  cases Reading.of_lexemeAt h with
  | blank | newline | line | block => cases hl
  | literal hk => rcases hk with rfl | rfl | rfl <;> cases hl
  | word =>
    rcases wordKind_cases (b :: rest.take (nameLength _ 0 rest)) with hk | ⟨k, hk⟩ <;>
      rw [hk] at hl <;> cases hl
  | @sign e he hpre =>
    simp only [Lexeme.token.injEq, TokenKind.sign.injEq] at hl
    have hs := signTable_semicolon e he hl.symm
    rw [hs] at hpre ⊢
    simp only [List.isPrefixOf, Bool.and_true, beq_iff_eq] at hpre
    exact ⟨hpre.symm, rfl⟩

theorem lexemeAt_of_semicolon (s : List UInt8) :
    lexemeAt 0x3B s = some (.token (.sign .semicolon), 0) := by
  have hsign : signAt (0x3B :: s) = some (.semicolon, 1) := rfl
  have hnum : numberLength (0x3B :: s) = 0 := by simp [numberLength, isDecimalByte]
  have hid : Text.isIdentifierStart (Char.ofNat (0x3B : UInt8).toNat) = false := by decide
  have hchar : Text.readChar 0x3B s = .char (Char.ofNat (0x3B : UInt8).toNat) 0 := by simp [Text.readChar]
  simp only [lexemeAt, hnum, hchar, hid, hsign]
  rfl

/-- A piece that starts with a byte that stops and is found whatever follows it. -/
def Piece.Closes (p : Piece) : Prop :=
  ∃ b rest, p.text = b :: rest ∧ isStop b = true ∧ ∀ s, lexemeAt b (rest ++ s) = some (p.lexeme, rest.length)

theorem Piece.closes_blank {b : UInt8} (h : isBlankByte b = true) : (⟨.blank, [b]⟩ : Piece).Closes :=
  ⟨b, [], rfl, by simp [isStop, h], fun s => by simp [lexemeAt, h]⟩

theorem Piece.closes_newline : (⟨.newline, [0x0A]⟩ : Piece).Closes :=
  ⟨0x0A, [], rfl, by decide, fun s => by simp [lexemeAt, isBlankByte]⟩

theorem Piece.closes_block {rest : List UInt8} (h : blockLength 1 rest = some (rest.length + 1)) :
    (⟨.comment, 0x2F :: 0x2A :: rest⟩ : Piece).Closes := by
  refine ⟨0x2F, 0x2A :: rest, rfl, by decide, fun s => ?_⟩
  have hb : blockLength 1 (rest ++ s) = some (rest.length + 1) :=
    blockLength_append (s := []) (by simpa using h) (by omega)
  simp [lexemeAt, isBlankByte, hb]

theorem Piece.closes_semicolon : (⟨.token (.sign .semicolon), [0x3B]⟩ : Piece).Closes :=
  ⟨0x3B, [], rfl, by decide, fun s => lexemeAt_of_semicolon s⟩

/-- A piece in its place. -/
theorem pieces_mid {bytes : List UInt8} {ps qs : List Piece} {p : Piece}
    (h : pieces 0 bytes = some (ps ++ p :: qs)) :
    ∃ b rest n, lexemeAt b rest = some (p.lexeme, n) ∧ p.text = b :: rest.take n ∧
      rest.drop n = textsOf qs ∧ bytes = textsOf ps ++ b :: rest ∧ pieces 0 (textsOf qs) = some qs := by
  induction ps generalizing bytes with
  | nil =>
    obtain ⟨b, rest, n, rfl, hl, ht, hqs⟩ := pieces_eq_cons h
    have hd := textsOf_pieces hqs
    exact ⟨b, rest, n, hl, ht, hd.symm, rfl, hd ▸ hqs⟩
  | cons q ps ih =>
    obtain ⟨b, rest, n, rfl, -, ht, hps⟩ := pieces_eq_cons h
    obtain ⟨b', rest', n', h1, h2, h3, h4, h5⟩ := ih hps
    refine ⟨b', rest', n', h1, h2, h3, ?_, h5⟩
    rw [textsOf_cons, ht, List.append_assoc, ← h4, List.cons_append, List.take_append_drop]

theorem pieces_behind {bytes : List UInt8} {ps qs : List Piece} (h : pieces 0 bytes = some (ps ++ qs)) :
    pieces 0 (textsOf qs) = some qs := by
  cases qs with
  | nil => rfl
  | cons q qs =>
    obtain ⟨b, rest, n, hl, ht, hd, -, hqs⟩ := pieces_mid h
    rw [textsOf_cons, ht, ← hd, List.cons_append, List.take_append_drop, pieces_cons, hl]
    simp [hd, hqs, ← ht]

/-- Where the last piece closes, some byte of the text stops what is in front of it. -/
theorem exists_stop {ps : List Piece} (hne : ps ≠ []) (hlast : ∀ p ∈ ps.getLast?, p.Closes) :
    ∃ z b z', textsOf ps = z ++ b :: z' ∧ isStop b = true := by
  obtain ⟨p, hp⟩ := Option.isSome_iff_exists.1 (List.getLast?_isSome.2 hne)
  obtain ⟨ps', rfl⟩ := List.getLast?_eq_some_iff.1 hp
  obtain ⟨b, rest, ht, hb, -⟩ := hlast p hp
  exact ⟨textsOf ps', b, rest, by simp [ht], hb⟩

/-- **The pieces in front of a change**: where the last of them closes, they do not depend on what
follows. -/
theorem pieces_append {ps qs : List Piece} {s : List UInt8} (h : pieces 0 (textsOf ps ++ s) = some (ps ++ qs))
    (hlast : ∀ p ∈ ps.getLast?, p.Closes) (s' : List UInt8) :
    pieces 0 (textsOf ps ++ s') = (pieces 0 s').map (ps ++ ·) := by
  induction ps with
  | nil => simp
  | cons p ps ih =>
    cases ps with
    | nil =>
      obtain ⟨b, rest, ht, -, hl⟩ := hlast p (by simp)
      simp only [textsOf_cons, textsOf_nil, List.append_nil, ht, List.cons_append, pieces_cons, hl,
        Option.bind_some, List.take_left, List.drop_left, List.nil_append]
      rw [← ht]
    | cons q ps =>
      have hlast' : ∀ p ∈ (q :: ps).getLast?, p.Closes := fun p hp => hlast p (by simpa using hp)
      -- The last piece starts with a byte that stops, so the first one does not see the change.
      obtain ⟨z, hstop, z', hz, hh⟩ := exists_stop (List.cons_ne_nil q ps) hlast'
      obtain ⟨b, rest, n, hl, ht, hd, hbytes, hqs⟩ := @pieces_mid _ [] (q :: ps ++ qs) _ h
      simp only [textsOf_append] at hd
      have hs : textsOf qs = s := by
        have := textsOf_pieces h
        simpa using this
      have hlen : n < rest.length := by
        rcases Nat.lt_or_ge n rest.length with hlt | hge
        · exact hlt
        · rw [List.drop_eq_nil_of_le hge, hz] at hd; simp at hd
      have hrest : rest = rest.take n ++ z ++ hstop :: (z' ++ s) := by
        conv_lhs => rw [← List.take_append_drop n rest, hd, hz, hs]
        simp
      have hl' := lexemeAt_stop hh (n := n) (y := rest.take n ++ z) (t := z' ++ s) (hrest ▸ hl)
        (by simp; omega) (z' ++ s')
      have hmid : (rest.take n ++ z) ++ hstop :: (z' ++ s') = rest.take n ++ (textsOf (q :: ps) ++ s') := by
        rw [hz]; simp
      rw [hmid] at hl'
      have hn : (rest.take n).length = n := List.length_take_of_le (by omega)
      have hq : pieces 0 (textsOf (q :: ps) ++ s) = some (q :: ps ++ qs) := by
        rw [← hs, ← textsOf_append]; exact hqs
      rw [textsOf_cons, List.append_assoc, ht, List.cons_append, pieces_cons, hl']
      simp only [Option.bind_some, List.take_left' hn, List.drop_left' hn, ih hq hlast', Option.map_map]
      rw [← ht]
      rfl

end RouteDoc.Go
