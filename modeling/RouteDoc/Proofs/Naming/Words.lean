/-
The words of a name.

Lower case leaves the ASCII characters that are no letters alone and makes none
of them out of others (`not_mem_lower`). So a hyphen in the lower case form of
split words is one that stands between two of them: such a text is words with
single hyphens between them (`hyphenated_kebab`), and stays so when a word is
taken from its front or when it is cut at a hyphen (`Hyphenated.cut`).
-/
import RouteDoc.Proofs.Splicing.OneLine
import RouteDoc.Route.Inference

namespace RouteDoc

namespace Text

variable {s t part lead : List Char} {c x : Char}

/-! ## Lower case -/

/-- An ASCII character that is no small letter: no other character has it as its lower case form. -/
def NoImage (x : Char) : Prop := x.toNat < 0x61 ∨ 0x7A < x.toNat ∧ x.toNat < 0x80

instance (x : Char) : Decidable (NoImage x) := inferInstanceAs (Decidable (_ ∨ _))

/-- The lower case forms that the table has are characters, and none but the letter k is of ASCII. -/
theorem lowerRuns_valid : ∀ r ∈ lowerRuns, r.first ≤ r.last ∧ (r.image = 0x6B ∧ r.first = r.last ∨ 0x80 ≤ r.image) ∧
    (r.image + (r.last - r.first) < 0xD800 ∨
      0xDFFF < r.image ∧ r.image + (r.last - r.first) < 0x110000) := by
  decide +kernel

theorem NoImage.ne_ofNat (hx : NoImage x) {n : Nat} (hvalid : n.isValidChar) (hn : 0x61 ≤ n ∧ n ≤ 0x7A ∨ 0x80 ≤ n) :
    x ≠ Char.ofNat n := by
  rintro rfl
  unfold NoImage at hx
  rw [Go.toNat_ofNat_of_valid hvalid] at hx
  omega

theorem NoImage.ne_lowerCode (hx : NoImage x) (h : x ≠ c) : x ≠ Char.ofNat (lowerCode c.toNat) := by
  unfold lowerCode
  split
  · split
    · rename_i hlt hcapital
      simp only [Bool.and_eq_true, decide_eq_true_eq] at hcapital
      exact hx.ne_ofNat (.inl (by omega)) (by omega)
    · rwa [Char.ofNat_toNat]
  · split
    · rename_i r hr
      obtain ⟨hle, himage, hvalid⟩ := lowerRuns_valid r (List.mem_of_find?_eq_some hr)
      have hin := List.find?_some hr
      simp only [Bool.and_eq_true, decide_eq_true_eq] at hin
      refine hx.ne_ofNat ?_ (by omega)
      unfold Nat.isValidChar
      omega
    · rwa [Char.ofNat_toNat]

theorem NoImage.not_mem_lowerOne (hx : NoImage x) (h : x ≠ c) (before after : List Char) :
    x ∉ lowerOne before c after := by
  -- Said by `List.all`, so that deciding it goes through this list and not through all characters.
  have hall : (['i', Char.ofNat 0x307, Char.ofNat 0x3C2, Char.ofNat 0x3C3].all fun y => !decide (NoImage y)) = true := by
    decide
  have hforms : ∀ y ∈ ['i', Char.ofNat 0x307, Char.ofNat 0x3C2, Char.ofNat 0x3C3], ¬NoImage y := by
    simpa only [List.all_eq_true, Bool.not_eq_true', decide_eq_false_iff_not] using hall
  unfold lowerOne
  split
  · exact fun hmem => hforms x (List.mem_append_left [_, _] hmem) hx
  · split
    · split
      · exact fun hmem => hforms x (by simp [List.mem_singleton.1 hmem]) hx
      · exact fun hmem => hforms x (by simp [List.mem_singleton.1 hmem]) hx
    · simpa using hx.ne_lowerCode h

/-- A character that no other one is put into is in the lower case form of a text only where it is in the text. -/
theorem not_mem_lower (hx : NoImage x) (h : x ∉ s) : x ∉ lower s := by
  have hfrom : ∀ before, x ∉ lowerFrom before s := by
    induction s with
    | nil => exact fun _ => h
    | cons c s ih =>
      intro before
      rw [List.mem_cons, not_or] at h
      rw [lowerFrom, List.mem_append, not_or]
      exact ⟨hx.not_mem_lowerOne h.1 before s, ih h.2 (c :: before)⟩
  exact hfrom []

theorem lowerOne_ne_nil (before : List Char) (c : Char) (after : List Char) : lowerOne before c after ≠ [] := by
  unfold lowerOne
  split
  · simp
  · split <;> simp

theorem lowerOne_hyphen (before after : List Char) : lowerOne before '-' after = ['-'] := rfl

/-! ## Cutting and splitting -/

theorem startsWith_iff : startsWith lead s = true ↔ lead <+: s := List.isPrefixOf_iff_prefix

theorem occursIn_iff : occursIn part s = true ↔ part <:+: s := by
  induction s with
  | nil => simp [occursIn]
  | cons c s ih => rw [occursIn, Bool.or_eq_true, startsWith_iff, ih, List.infix_cons_iff]

theorem dropLeading_append (lead rest : List Char) : dropLeading lead (lead ++ rest) = rest := by
  rw [dropLeading, if_pos (startsWith_iff.2 (List.prefix_append lead rest)), List.drop_left]

theorem dropLeading_eq_self (h : ¬lead <+: s) : dropLeading lead s = s := by
  rw [dropLeading, if_neg (mt startsWith_iff.1 h)]

theorem mem_of_mem_dropLeading (h : c ∈ dropLeading lead s) : c ∈ s := by
  unfold dropLeading at h
  split at h
  · exact List.mem_of_mem_drop h
  · exact h

theorem mem_of_mem_dropTrailing {tail : List Char} (h : c ∈ dropTrailing tail s) : c ∈ s := by
  unfold dropTrailing at h
  split at h
  · exact List.mem_of_mem_take h
  · exact h

/-- What stands in front of a part: the whole text where the part is not in it. -/
theorem untilText_cases (part s : List Char) :
    ¬part <:+: s ∧ untilText part s = s ∨ ∃ rest, s = untilText part s ++ part ++ rest := by
  induction s with
  | nil =>
    by_cases hpart : part = []
    · exact .inr ⟨[], by simp [hpart, untilText]⟩
    · exact .inl ⟨by simpa using hpart, rfl⟩
  | cons c s ih =>
    rw [untilText]
    split
    · rename_i hstarts
      obtain ⟨rest, hrest⟩ := startsWith_iff.1 hstarts
      exact .inr ⟨rest, by simp [hrest]⟩
    · rename_i hstarts
      rcases ih with ⟨hnone, heq⟩ | ⟨rest, hrest⟩
      · refine .inl ⟨?_, by rw [heq]⟩
        rw [List.infix_cons_iff, ← startsWith_iff]
        exact not_or.2 ⟨hstarts, hnone⟩
      · refine .inr ⟨rest, ?_⟩
        rw [List.cons_append, List.cons_append, ← hrest]

theorem untilText_isPrefix (part s : List Char) : untilText part s <+: s := by
  rcases untilText_cases part s with ⟨-, heq⟩ | ⟨rest, hrest⟩
  · exact ⟨[], by rw [heq, List.append_nil]⟩
  · exact ⟨part ++ rest, by rw [← List.append_assoc, ← hrest]⟩

theorem mem_of_mem_untilText (h : c ∈ untilText part s) : c ∈ s := (untilText_isPrefix part s).mem h

/-- The part does not stand in front of its first occurrence. -/
theorem not_infix_untilText (hpart : part ≠ []) (s : List Char) : ¬part <:+: untilText part s := by
  induction s with
  | nil => simpa [untilText] using hpart
  | cons c s ih =>
    rw [untilText]
    split
    · simpa using hpart
    · rename_i hstarts
      rw [List.infix_cons_iff, not_or]
      refine ⟨fun hlead => hstarts (startsWith_iff.2 (hlead.trans ?_)), ih⟩
      exact List.cons_prefix_cons.2 ⟨rfl, untilText_isPrefix part s⟩

theorem mem_splitCamel {sep : List Char} (h : c ∈ splitCamel sep s) : c ∈ sep ∨ c ∈ s := by
  fun_induction splitCamel sep s with
  | case1 => exact .inr h
  | case2 => exact .inr h
  | case3 a b rest hboundary ih =>
    rw [List.mem_cons, List.mem_append] at h
    rcases h with rfl | h | h
    · exact .inr List.mem_cons_self
    · exact .inl h
    · exact (ih h).imp_right (List.mem_cons_of_mem a)
  | case4 a b rest hboundary ih =>
    rcases List.mem_cons.1 h with rfl | h
    · exact .inr List.mem_cons_self
    · exact (ih h).imp_right (List.mem_cons_of_mem a)

/-! ## Hyphens between words -/

/-- Words with single hyphens between them: the text is not empty, it starts and ends with other
characters, and behind a hyphen stands no other one. -/
inductive Hyphenated : List Char → Prop where
  | single {c : Char} (hc : c ≠ '-') : Hyphenated [c]
  | cons {c : Char} {s : List Char} (hc : c ≠ '-') (hs : Hyphenated s) : Hyphenated (c :: s)
  | hyphen {c : Char} {s : List Char} (hc : c ≠ '-') (hs : Hyphenated s) : Hyphenated (c :: '-' :: s)

namespace Hyphenated

theorem ne_nil (h : Hyphenated s) : s ≠ [] := by
  cases h <;> simp

theorem head_ne (h : Hyphenated s) : s.head? ≠ some '-' := by
  cases h <;> simpa

theorem of_word {word : List Char} (hne : word ≠ []) (hword : '-' ∉ word) : Hyphenated word := by
  induction word with
  | nil => exact absurd rfl hne
  | cons c word ih =>
    simp only [List.mem_cons, not_or] at hword
    cases word with
    | nil => exact .single (Ne.symm hword.1)
    | cons d word => exact .cons (Ne.symm hword.1) (ih (by simp) hword.2)

theorem word_append {word : List Char} (hword : '-' ∉ word) (h : Hyphenated s) : Hyphenated (word ++ s) := by
  induction word with
  | nil => exact h
  | cons c word ih =>
    simp only [List.mem_cons, not_or] at hword
    exact .cons (Ne.symm hword.1) (ih hword.2)

theorem word_hyphen {word : List Char} (hne : word ≠ []) (hword : '-' ∉ word) (h : Hyphenated s) :
    Hyphenated (word ++ '-' :: s) := by
  rw [← List.dropLast_append_getLast hne] at hword ⊢
  simp only [List.mem_append, List.mem_singleton, not_or] at hword
  rw [List.append_assoc, List.singleton_append]
  exact word_append hword.1 (.hyphen (Ne.symm hword.2) h)

/-- The two sides of a hyphen are such texts again. -/
theorem cut {a b : List Char} (h : Hyphenated (a ++ '-' :: b)) : Hyphenated a ∧ Hyphenated b := by
  generalize hs : a ++ '-' :: b = s at h
  induction h generalizing a with
  | single hc =>
    cases a with
    | nil => exact absurd (List.cons.inj hs).1.symm hc
    | cons d a => simp at hs
  | cons hc h ih =>
    cases a with
    | nil => exact absurd (List.cons.inj hs).1.symm hc
    | cons d a =>
      rw [List.cons_append, List.cons.injEq] at hs
      obtain ⟨ha, hb⟩ := ih hs.2
      exact ⟨hs.1 ▸ .cons hc ha, hb⟩
  | hyphen hc h ih =>
    rcases a with - | ⟨d, - | ⟨e, a⟩⟩
    · exact absurd (List.cons.inj hs).1.symm hc
    · -- The cut is at the first hyphen.
      simp only [List.cons_append, List.nil_append, List.cons.injEq, true_and] at hs
      exact ⟨hs.1 ▸ .single hc, hs.2 ▸ h⟩
    · simp only [List.cons_append, List.cons.injEq] at hs
      obtain ⟨ha, hb⟩ := ih hs.2.2
      exact ⟨hs.1 ▸ hs.2.1 ▸ .hyphen hc ha, hb⟩

theorem getLast_ne (h : Hyphenated s) : s.getLast? ≠ some '-' := by
  intro hlast
  obtain ⟨a, rfl⟩ := List.getLast?_eq_some_iff.1 hlast
  exact h.cut.2.ne_nil rfl

theorem not_double (h : Hyphenated s) : ¬['-', '-'] <:+: s := by
  rintro ⟨a, b, rfl⟩
  rw [List.append_assoc] at h
  exact h.cut.2.head_ne rfl

/-- A word in front can be dropped with its hyphen. -/
theorem dropLeading (h : Hyphenated s) (hlead : lead.getLast? = some '-') : Hyphenated (dropLeading lead s) := by
  by_cases hstarts : lead <+: s
  · obtain ⟨rest, rfl⟩ := hstarts
    obtain ⟨word, rfl⟩ := List.getLast?_eq_some_iff.1 hlead
    rw [dropLeading_append]
    rw [List.append_assoc] at h
    exact h.cut.2
  · rwa [dropLeading_eq_self hstarts]

/-- A text can be cut at a part that starts with a hyphen. -/
theorem untilText (h : Hyphenated s) (part : List Char) : Hyphenated (untilText ('-' :: part) s) := by
  rcases untilText_cases ('-' :: part) s with ⟨-, heq⟩ | ⟨rest, hrest⟩
  · rwa [heq]
  · rw [hrest, List.append_assoc] at h
    exact h.cut.1

theorem lowerFrom (h : Hyphenated s) (before : List Char) : Hyphenated (lowerFrom before s) := by
  have hhyphen : NoImage '-' := by decide
  induction h generalizing before with
  | @single c hc =>
    rw [Text.lowerFrom, Text.lowerFrom, List.append_nil]
    exact of_word (lowerOne_ne_nil before c []) (hhyphen.not_mem_lowerOne (Ne.symm hc) before [])
  | @cons c s hc h ih =>
    rw [Text.lowerFrom]
    exact word_append (hhyphen.not_mem_lowerOne (Ne.symm hc) before s) (ih _)
  | @hyphen c s hc h ih =>
    rw [Text.lowerFrom, Text.lowerFrom, lowerOne_hyphen, List.singleton_append]
    exact word_hyphen (lowerOne_ne_nil before c _) (hhyphen.not_mem_lowerOne (Ne.symm hc) before _) (ih _)

end Hyphenated

/-- Between words that are split at hyphens stand single hyphens. -/
theorem hyphenated_splitCamel (hne : s ≠ []) (h : '-' ∉ s) : Hyphenated (splitCamel ['-'] s) := by
  fun_induction splitCamel ['-'] s with
  | case1 => exact absurd rfl hne
  | case2 a => exact .single (by simpa [eq_comm] using h)
  | case3 a b rest hboundary ih =>
    rw [List.mem_cons, not_or] at h
    exact .hyphen (Ne.symm h.1) (ih (by simp) h.2)
  | case4 a b rest hboundary ih =>
    rw [List.mem_cons, not_or] at h
    exact .cons (Ne.symm h.1) (ih (by simp) h.2)

end Text

/-! ## The words of a path -/

namespace Route

variable {name : String} {x : Char}

theorem hyphenated_kebab (hne : name ≠ "") (h : '-' ∉ name.toList) : Text.Hyphenated (kebab name) :=
  (Text.hyphenated_splitCamel (by simpa using hne) h).lowerFrom []

theorem not_mem_kebab (hx : Text.NoImage x) (hhyphen : x ≠ '-') (h : x ∉ name.toList) : x ∉ kebab name := by
  refine Text.not_mem_lower hx fun hmem => ?_
  rcases Text.mem_splitCamel hmem with hsep | hword
  · exact hhyphen (List.mem_singleton.1 hsep)
  · exact h hword

/-- Drops the leads that a text starts with, one after the other. -/
def dropLeads (leads : List String) (s : List Char) : List Char :=
  leads.foldl (fun path lead => Text.dropLeading lead.toList path) s

theorem dropLeads_cons (lead : String) (leads : List String) (s : List Char) :
    dropLeads (lead :: leads) s = dropLeads leads (Text.dropLeading lead.toList s) := rfl

/-- What is dropped stands in front: leads of the table, in its order. -/
theorem dropLeads_split (leads : List String) (s : List Char) :
    ∃ dropped : List String, dropped.Sublist leads ∧ s = (dropped.map String.toList).flatten ++ dropLeads leads s := by
  induction leads generalizing s with
  | nil => exact ⟨[], .slnil, rfl⟩
  | cons lead leads ih =>
    by_cases hstarts : lead.toList <+: s
    · obtain ⟨rest, rfl⟩ := hstarts
      rw [dropLeads_cons, Text.dropLeading_append]
      obtain ⟨dropped, hsub, hrest⟩ := ih rest
      refine ⟨lead :: dropped, hsub.cons_cons lead, ?_⟩
      rw [List.map_cons, List.flatten_cons, List.append_assoc, ← hrest]
    · rw [dropLeads_cons, Text.dropLeading_eq_self hstarts]
      obtain ⟨dropped, hsub, hrest⟩ := ih s
      exact ⟨dropped, hsub.cons lead, hrest⟩

theorem dropLeads_suffix (leads : List String) (s : List Char) : dropLeads leads s <:+ s := by
  obtain ⟨dropped, -, hs⟩ := dropLeads_split leads s
  exact ⟨_, hs.symm⟩

theorem not_mem_resourceWords (hx : Text.NoImage x) (hhyphen : x ≠ '-') (h : x ∉ name.toList) :
    x ∉ resourceWords name := fun hmem =>
  not_mem_kebab hx hhyphen h ((dropLeads_suffix pathLeads (kebab name)).mem hmem)

end Route

end RouteDoc
