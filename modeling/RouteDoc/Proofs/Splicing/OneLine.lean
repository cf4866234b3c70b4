/-
Texts that stay on their line.

A line comment ends at a line feed or a zero. A text without either has bytes
without either (`plain_utf8`), and bytes without either make a text without
either (`oneLine_textOf`): such a byte belongs to no longer character. Names are
such texts, and so are the receivers of functions, for every file that can be
parsed (`declaration_oneLine`).
-/
import RouteDoc.Handler
import RouteDoc.Proofs.Splicing.CommentLines
import RouteDoc.Proofs.Text.CodeTexts

namespace RouteDoc

/-- A text without a line feed and without a zero. -/
def Text.OneLine (s : List Char) : Prop := '\n' ∉ s ∧ Char.ofNat 0 ∉ s

/-- The same for a text of code points. -/
def CodeText.OneLine (t : CodeText) : Prop := .char '\n' ∉ t ∧ .char (Char.ofNat 0) ∉ t

instance (t : CodeText) : Decidable t.OneLine := inferInstanceAs (Decidable (_ ∧ _))

namespace Go

/-! ## Characters and bytes -/

theorem utf8EncodeChar_ascii {c : Char} {b : UInt8} (hb : b ∈ String.utf8EncodeChar c) (hlt : b.toNat < 0x80) :
    c.toNat = b.toNat := by
  unfold String.utf8EncodeChar at hb
  have hval : c.toNat = c.val.toNat := rfl
  dsimp only at hb
  repeat' split at hb
  all_goals simp only [List.mem_cons, List.not_mem_nil, or_false] at hb
  · subst hb
    rw [UInt8.toNat_ofNat'] at hlt ⊢
    omega
  · rcases hb with rfl | rfl <;> rw [UInt8.toNat_ofNat'] at hlt <;> omega
  · rcases hb with rfl | rfl | rfl <;> rw [UInt8.toNat_ofNat'] at hlt <;> omega
  · rcases hb with rfl | rfl | rfl | rfl <;> rw [UInt8.toNat_ofNat'] at hlt <;> omega

theorem toNat_ofNat_of_valid {n : Nat} (h : n.isValidChar) : (Char.ofNat n).toNat = n := by
  rw [Char.ofNat, dif_pos h]
  rfl

theorem continuation_bounds {b : UInt8} (h : Text.isContinuation b = true) : 0x80 ≤ b.toNat ∧ b.toNat ≤ 0xBF := by
  simpa [Text.isContinuation, UInt8.le_iff_toNat_le] using h

theorem second_bounds {lead b : UInt8} (h : Text.fitsSecond lead b = true) :
    0x80 ≤ b.toNat ∧ b.toNat ≤ 0xBF ∧ (lead.toNat = 0xE0 → 0xA0 ≤ b.toNat) ∧
      (lead.toNat = 0xED → b.toNat ≤ 0x9F) ∧ (lead.toNat = 0xF0 → 0x90 ≤ b.toNat) ∧
      (lead.toNat = 0xF4 → b.toNat ≤ 0x8F) := by
  unfold Text.fitsSecond at h
  rw [Bool.and_eq_true] at h
  obtain ⟨hcont, h⟩ := h
  have hbounds := continuation_bounds hcont
  have hlead : ∀ n : UInt8, (lead == n) = decide (lead.toNat = n.toNat) := by
    intro n
    rw [Bool.eq_iff_iff, beq_iff_eq, decide_eq_true_eq, UInt8.toNat_inj]
  simp only [hlead, decide_eq_true_eq, UInt8.le_iff_toNat_le, UInt8.reduceToNat] at h
  refine ⟨hbounds.1, hbounds.2, ?_, ?_, ?_, ?_⟩
  all_goals
    intro heq
    simpa [heq] using h

/-- A character with more than one byte is no ASCII character. -/
theorem Encodes.ascii {b : UInt8} {tail : List UInt8} {c : Char} (h : Encodes b tail c) (hc : c.toNat < 0x80) :
    c.toNat = b.toNat := by
  have hb := b.toNat_lt
  -- The code point of a longer character is valid, and not below 0x80.
  have hlong : ∀ n : Nat, n.isValidChar → 0x80 ≤ n → ¬(Char.ofNat n).toNat < 0x80 := by
    intro n hvalid hle
    rw [toNat_ofNat_of_valid hvalid]
    omega
  cases h with
  | one hlt =>
    simp only [UInt8.lt_iff_toNat_lt, UInt8.reduceToNat] at hlt
    exact toNat_ofNat_of_valid (.inl (by omega))
  | two h1 h2 h3 =>
    have hsecond := continuation_bounds h3
    simp only [UInt8.lt_iff_toNat_lt, UInt8.reduceToNat] at h1 h2
    refine absurd hc (hlong _ (.inl ?_) ?_) <;> unfold Text.low6 <;> omega
  | three h1 h2 h3 h4 =>
    have hsecond := second_bounds h3
    have hthird := continuation_bounds h4
    simp only [UInt8.lt_iff_toNat_lt, UInt8.reduceToNat] at h1 h2
    refine absurd hc (hlong _ ?_ ?_) <;> unfold Text.low6
    · unfold Nat.isValidChar
      omega
    · omega
  | four h1 h2 h3 h4 h5 =>
    have hsecond := second_bounds h3
    have hthird := continuation_bounds h4
    have hfourth := continuation_bounds h5
    simp only [UInt8.lt_iff_toNat_lt, UInt8.reduceToNat] at h1 h2
    refine absurd hc (hlong _ ?_ ?_) <;> unfold Text.low6
    · unfold Nat.isValidChar
      omega
    · omega

/-! ## Texts -/

theorem plain_utf8 {t : CodeText} (h : t.OneLine) : Plain t.utf8 := by
  have hbyte : ∀ b : UInt8, b.toNat < 0x80 → b ∈ t.utf8 → ∃ c, CodePoint.char c ∈ t ∧ c.toNat = b.toNat := by
    intro b hlt hb
    obtain ⟨p, hp, hbp⟩ := List.mem_flatMap.1 hb
    cases p with
    | char c => exact ⟨c, hp, utf8EncodeChar_ascii hbp hlt⟩
    | surrogate n => cases hbp
  constructor
  · intro hb
    obtain ⟨c, hc, hval⟩ := hbyte _ (by decide) hb
    obtain rfl : c = '\n' := Char.toNat_inj.1 hval
    exact h.1 hc
  · intro hb
    obtain ⟨c, hc, hval⟩ := hbyte _ (by decide) hb
    obtain rfl : c = Char.ofNat 0 := Char.toNat_inj.1 hval
    exact h.2 hc

/-- A character of a text is the replacement character, or there are bytes that make it up. -/
theorem decodeLossyFrom_mem {read : List Char} {skip : Nat} {bytes : List UInt8} {c : Char}
    (hc : c ∈ Text.decodeLossyFrom read skip bytes) :
    c ∈ read ∨ c = Char.ofNat 0xFFFD ∨ ∃ b ∈ bytes, ∃ tail, Encodes b tail c := by
  induction bytes generalizing read skip with
  | nil => cases skip <;> exact .inl (List.mem_reverse.1 hc)
  | cons b bytes ih =>
    have hlater : (c ∈ read ∨ c = Char.ofNat 0xFFFD ∨ ∃ b ∈ bytes, ∃ tail, Encodes b tail c) →
        c ∈ read ∨ c = Char.ofNat 0xFFFD ∨ ∃ b' ∈ b :: bytes, ∃ tail, Encodes b' tail c := by
      rintro (h | h | ⟨b', hb', h⟩)
      · exact .inl h
      · exact .inr (.inl h)
      · exact .inr (.inr ⟨b', List.mem_cons_of_mem b hb', h⟩)
    cases skip with
    | succ skip => exact hlater (ih hc)
    | zero =>
      rw [Text.decodeLossyFrom] at hc
      split at hc
      · rename_i c' more hread
        rcases ih hc with h | h
        · rcases List.mem_cons.1 h with rfl | h
          · exact .inr (.inr ⟨b, List.mem_cons_self, _, (Encodes.of_readChar hread).2⟩)
          · exact .inl h
        · exact hlater (.inr h)
      · rcases ih hc with h | h
        · rcases List.mem_cons.1 h with rfl | h
          · exact .inr (.inl rfl)
          · exact .inl h
        · exact hlater (.inr h)

theorem oneLine_textOf {bytes : List UInt8} (h : Plain bytes) : Text.OneLine (textOf bytes).toList := by
  have hchar : ∀ c : Char, c.toNat < 0x80 → c ∈ (textOf bytes).toList → ∃ b ∈ bytes, c.toNat = b.toNat := by
    intro c hlt hc
    rw [textOf, String.toList_ofList] at hc
    rcases decodeLossyFrom_mem hc with hc | rfl | ⟨b, hb, tail, henc⟩
    · cases hc
    · exact absurd hlt (by decide)
    · exact ⟨b, hb, henc.ascii hlt⟩
  constructor
  · intro hc
    obtain ⟨b, hb, hval⟩ := hchar _ (by decide) hc
    obtain rfl : 0x0A = b := UInt8.toNat_inj.1 hval
    exact h.1 hb
  · intro hc
    obtain ⟨b, hb, hval⟩ := hchar _ (by decide) hc
    obtain rfl : 0 = b := UInt8.toNat_inj.1 hval
    exact h.2 hb

/-! ## Names -/

theorem continuation_plain {b : UInt8} (h : Text.isContinuation b = true) : b ≠ 0x0A ∧ b ≠ 0 := by
  have hbounds := continuation_bounds h
  constructor
  · rintro rfl
    exact absurd hbounds.1 (by decide)
  · rintro rfl
    exact absurd hbounds.1 (by decide)

/-- The first byte of a character of a name. -/
theorem Encodes.lead_plain {b : UInt8} {tail : List UInt8} {c : Char} (h : Encodes b tail c)
    (hc : Text.isIdentifierStart c = true ∨ Text.isIdentifierContinue c = true) : b ≠ 0x0A ∧ b ≠ 0 := by
  cases h with
  | one _ =>
    constructor
    · rintro rfl
      exact absurd hc (by decide)
    · rintro rfl
      exact absurd hc (by decide)
  | two h1 _ _ | three h1 _ _ _ | four h1 _ _ _ _ =>
    constructor
    · rintro rfl
      exact absurd h1 (by decide)
    · rintro rfl
      exact absurd h1 (by decide)

theorem Plain.cons {b : UInt8} {bytes : List UInt8} (hb : b ≠ 0x0A ∧ b ≠ 0) (h : Plain bytes) : Plain (b :: bytes) := by
  simp only [Plain, List.mem_cons, not_or]
  exact ⟨⟨Ne.symm hb.1, h.1⟩, Ne.symm hb.2, h.2⟩

theorem nameLength_plain {skip n : Nat} {bytes : List UInt8}
    (hskip : ∀ x ∈ bytes.take skip, Text.isContinuation x = true) :
    n ≤ nameLength skip n bytes ∧ Plain (bytes.take (nameLength skip n bytes - n)) := by
  induction bytes generalizing skip n with
  | nil => cases skip <;> simp [nameLength, Plain]
  | cons b bytes ih =>
    -- One more byte in front of what `ih` is about.
    have hnext : ∀ {skip : Nat}, b ≠ 0x0A ∧ b ≠ 0 → (∀ x ∈ bytes.take skip, Text.isContinuation x = true) →
        n ≤ nameLength skip (n + 1) bytes ∧ Plain ((b :: bytes).take (nameLength skip (n + 1) bytes - n)) := by
      intro skip hb hskip
      obtain ⟨hle, hplain⟩ := ih (n := n + 1) hskip
      refine ⟨by omega, ?_⟩
      have hone : nameLength skip (n + 1) bytes - n = nameLength skip (n + 1) bytes - (n + 1) + 1 := by omega
      rw [hone, List.take_succ_cons]
      exact hplain.cons hb
    cases skip with
    | succ skip =>
      rw [List.take_succ_cons] at hskip
      obtain ⟨hb, hskip⟩ := List.forall_mem_cons.1 hskip
      exact hnext (continuation_plain hb) hskip
    | zero =>
      rw [nameLength]
      split
      · rename_i c more hread
        obtain ⟨-, henc⟩ := Encodes.of_readChar hread
        split
        · rename_i hc
          exact hnext (henc.lead_plain (.inr hc)) henc.continues
        · simp [Plain]
      · simp [Plain]

/-- The bytes of a name stay on their line. -/
theorem name_plain {source : List UInt8} {k : Tokens} (h : tokenize source = some k) {t : Token} (ht : t ∈ k.tokens)
    (hkind : t.kind = .name) : Plain t.text := by
  rw [tokenize_eq] at h
  obtain ⟨ps, hps, rfl⟩ := Option.map_eq_some_iff.1 h
  obtain ⟨before, behind, hsplit⟩ := List.append_of_mem ht
  obtain ⟨ps₁, ps₂, rfl, -⟩ := tokensOf_split hsplit
  obtain ⟨b, rest, n, hlexeme, htext, -⟩ := pieces_mid hps
  have hreading := Reading.of_lexemeAt hlexeme
  dsimp only at htext hreading
  rw [hkind] at hreading
  rw [htext]
  generalize hlex : Lexeme.token TokenKind.name = lexeme at hreading
  cases hreading with
  | blank | newline | line | block => cases hlex
  | literal hliteral =>
    cases hlex
    rcases hliteral with h | h | h <;> cases h
  | word hread hstart =>
    obtain ⟨-, henc⟩ := Encodes.of_readChar hread
    have hrest := (nameLength_plain (n := 0) henc.continues).2
    rw [Nat.sub_zero] at hrest
    exact hrest.cons (henc.lead_plain (.inl hstart))
  | sign => cases hlex

/-- The name of a function and its receivers are spelled by names of the text. -/
theorem function_spelled {source : List UInt8} (p : Parsed source) {d : Declaration}
    (hd : d ∈ Declaration.ofNodes p.nodes) :
    ∃ ts, (∀ t ∈ ts, t ∈ p.tokens.tokens) ∧ (Retouch.refl ts).SpellsFunction d.function := by
  obtain ⟨ds, es, hsplit⟩ := List.append_of_mem hd
  obtain ⟨cs₁, c, cs₂, hclauses, -, hdecl, -⟩ := declaration_split hsplit
  have hreads := p.reads
  rw [hclauses] at hreads
  obtain ⟨hitem, -⟩ := hreads.append_right
  have hrel : Option.Rel ((Retouch.refl (tokensIn (c :: cs₂))).SameItem 0)
      (Grammar.item (Grammar.rulesFor p.tokens.tokens) (tokensIn (c :: cs₂)))
      (Grammar.item (Grammar.rulesFor p.tokens.tokens) (tokensIn (c :: cs₂))) :=
    Retouch.item_rel (Retouch.rules_agree (.refl _) _) ⟨0, rfl, rfl, rfl⟩
  rw [hitem] at hrel
  cases hrel with | some hsame =>
  refine ⟨tokensIn (c :: cs₂), fun t ht => ?_, hsame.2.1 _ ?_⟩
  · rw [← p.cut, hclauses, tokensIn_append]
    exact List.mem_append_right _ ht
  · unfold Clause.declaration? at hdecl
    split at hdecl
    · rename_i f hf
      obtain rfl := Option.some.inj hdecl
      exact hf
    · cases hdecl

/-- **The names of a function** that stand in its doc block stay on their line. -/
theorem declaration_oneLine {source : List UInt8} {nodes : List Node} (h : nodes? source = some nodes)
    {d : Declaration} (hd : d ∈ Declaration.ofNodes nodes) :
    Text.OneLine d.name.toList ∧ Text.OneLine (receiverType d).toList := by
  obtain ⟨p, rfl⟩ := nodes?_eq_some_iff.1 h
  obtain ⟨ts, hts, ⟨text, hname, hspelled⟩, hreceiver⟩ := function_spelled p hd
  have hplain : ∀ text, (Retouch.refl ts).Spells text → Text.OneLine (textOf text).toList := by
    rintro text ⟨t, ht, hkind, rfl⟩
    exact oneLine_textOf (name_plain p.tokenize (hts t ht) hkind)
  have hempty : Text.OneLine "".toList := by simp [Text.OneLine]
  refine ⟨by rw [Declaration.name, hname]; exact hplain text hspelled, ?_⟩
  unfold receiverType
  split
  · rename_i type hreceivers
    have htype := hreceiver [type] hreceivers type List.mem_cons_self
    split
    · rename_i text htext
      refine hplain text ?_
      -- The receiver is named, or it points to a named type.
      unfold unwrapPointer at htext
      split at htext
      · split at htext
        · cases htext
        · subst htext; exact htype
      · subst htext; exact htype
    · exact hempty
  · exact hempty

end Go

end RouteDoc
