/-
What a pattern stands for.

A pattern text is read in one way (`Pattern.reads_iff`): a class takes all that stands
between its brackets, and a bracket that is never closed is a character like others. A
class has the characters and the ranges that are written in it, or all others
(`Pattern.has_classOf`, `Pattern.has_classOf_not`). The pattern then stands for the
texts that fall into pieces, one for each of its items (`Pattern.accepts_iff`).
-/
import Mathlib.Data.List.Forall2
import Mathlib.Data.List.TakeWhile
import RouteDoc.Pattern

namespace RouteDoc

/-- The texts that one item of a pattern stands for. -/
def PatternItem.StandsFor : PatternItem → List Char → Prop
  | .anyText, _ => True
  | .anyChar, s => ∃ c, s = [c]
  | .oneOf k, s => ∃ c, s = [c] ∧ k.has c = true
  | .char x, s => s = [x]

namespace Pattern

/-! ## Classes -/

/-- The characters that the body of a class names: one character, or with a hyphen all from one to another. -/
def Names : List Char → Char → Prop
  | x :: '-' :: y :: rest, c => x.toNat ≤ c.toNat ∧ c.toNat ≤ y.toNat ∨ Names rest c
  | x :: rest, c => c = x ∨ Names rest c
  | [], _ => False

theorem parts_ne_range (body : List Char) (rest : List ClassPart) : parts body ≠ .range :: rest := by
  induction body using parts.induct with
  | case1 x y body hlt ih => rwa [parts, if_pos hlt]
  | case2 x y body hle ih => rw [parts, if_neg hle]; simp
  | case3 x body hne ih => rw [parts]; simp; exact hne
  | case4 => simp [parts]

theorem has_ranges (body : List Char) (c : Char) :
    ((ranges (parts body)).any fun r => r.has c) = true ↔ Names body c := by
  have hone : ∀ x : Char, x.toNat ≤ c.toNat ∧ c.toNat ≤ x.toNat ↔ c = x := by
    intro x
    rw [← Char.toNat_inj]
    omega
  induction body using parts.induct with
  | case1 x y body hlt ih =>
    rw [parts, if_pos hlt, Names, or_iff_right (by omega)]
    exact ih
  | case2 x y body hle ih =>
    rw [parts, if_neg hle, ranges, List.any_cons, Bool.or_eq_true, Names]
    exact or_congr (by simp [CharRange.has]) ih
  | case3 x body hne ih =>
    rw [parts, ranges, List.any_cons, Bool.or_eq_true, Names]
    · exact or_congr (by simp [CharRange.has, hone]) ih
    · exact hne
    · intro y rest hparts
      exact absurd hparts (parts_ne_range _ _)
    · exact hne
  | case4 => simp [parts, ranges, Names]

/-- A class that starts with `!` has the characters that the rest of it does not name. -/
theorem has_classOf_not (body : List Char) (c : Char) : (classOf ('!' :: body)).has c = true ↔ ¬Names body c := by
  rw [← has_ranges]
  simp [classOf, CharClass.has]

/-- Any other class has the characters that it names, where it does not start with a range that vanishes. -/
theorem has_classOf {body : List Char} (hnot : ∀ rest, body ≠ '!' :: rest)
    (hrange : ∀ x y rest, body = x :: '-' :: y :: rest → x.toNat ≤ y.toNat) (c : Char) :
    (classOf body).has c = true ↔ Names body c := by
  have hparts : ∀ rest, parts body ≠ .char '!' :: rest := by
    intro rest
    fun_cases parts body with
    | case1 x y body hlt => exact absurd (hrange x y body rfl) (by omega)
    | case2 x y body hle => exact fun h => hnot _ (congrArg (· :: _) (ClassPart.char.inj (List.cons.inj h).1))
    | case3 x body hne => exact fun h => hnot _ (congrArg (· :: _) (ClassPart.char.inj (List.cons.inj h).1))
    | case4 => simp
  have hclass : classOf body = ⟨false, ranges (parts body)⟩ := by
    unfold classOf
    dsimp only
    split
    · rename_i hall
      split at hall
      · exact (hnot _ rfl).elim
      · exact absurd hall (hparts _)
    · split
      · exact (hnot _ rfl).elim
      · rfl
  rw [← has_ranges, hclass]
  simp [CharClass.has]

/-- What can stand between the brackets of a class: something, behind `!` or not, and a closing bracket only as the
first of it. -/
def ClassBody (body : List Char) : Prop :=
  ∃ c inner, (body = c :: inner ∧ c ≠ '!' ∨ body = '!' :: c :: inner) ∧ ']' ∉ inner

theorem classBody_some {s body rest : List Char} (h : classBody s = some (body, rest)) :
    ClassBody body ∧ s = body ++ ']' :: rest := by
  revert h
  fun_cases classBody s with
  | case1 lead tail hdrop => simp
  | case2 lead tail d more hdrop =>
    intro h
    obtain ⟨rfl, rfl⟩ := Prod.mk.inj (Option.some.inj h)
    clear h
    obtain rfl : d = ']' := by
      have hhead := List.head_dropWhile_not (· != ']') (l := tail) (by simp [hdrop])
      simpa [hdrop] using hhead
    have hinner : ']' ∉ tail.takeWhile (· != ']') := fun hmem => by simpa using List.mem_takeWhile_imp hmem
    have htail : tail = tail.takeWhile (· != ']') ++ ']' :: more := by rw [← hdrop, List.takeWhile_append_dropWhile]
    refine ⟨?_, by rw [List.append_assoc, ← htail, List.take_append_drop]⟩
    generalize tail.takeWhile (· != ']') = inner at hinner htail ⊢
    subst lead tail
    split at htail
    · exact ⟨_, inner, .inr rfl, hinner⟩
    · rename_i hclose
      cases inner with
      | nil => exact (hclose _ htail).elim
      | cons c inner => exact ⟨c, inner, .inr rfl, fun hmem => hinner (.tail _ hmem)⟩
    · exact ⟨_, inner, .inl ⟨rfl, by decide⟩, hinner⟩
    · rename_i hnot hclose
      cases inner with
      | nil => exact (hclose _ htail).elim
      | cons c inner =>
        refine ⟨c, inner, .inl ⟨rfl, ?_⟩, fun hmem => hinner (.tail _ hmem)⟩
        rintro rfl
        exact hnot _ htail

theorem classBody_append {body : List Char} (h : ClassBody body) (rest : List Char) :
    classBody (body ++ ']' :: rest) = some (body, rest) := by
  obtain ⟨c, inner, hbody, hinner⟩ := h
  have hpos : ∀ c ∈ inner, (c != ']') = true := fun c hc => bne_iff_ne.2 (ne_of_mem_of_not_mem hc hinner)
  have htake : (inner ++ ']' :: rest).takeWhile (· != ']') = inner := by simp [List.takeWhile_append_of_pos hpos]
  have hdrop : (inner ++ ']' :: rest).dropWhile (· != ']') = ']' :: rest := by simp [List.dropWhile_append_of_pos hpos]
  rcases hbody with ⟨rfl, hc⟩ | rfl
  · by_cases hclose : c = ']'
    · subst hclose
      simp [classBody, htake, hdrop]
    · simp [classBody, hc, hclose, htake, hdrop]
  · by_cases hclose : c = ']'
    · subst hclose
      simp [classBody, htake, hdrop]
    · simp [classBody, hclose, htake, hdrop]

/-! ## Items -/

/-- How a pattern text is read into items. -/
inductive Reads : List Char → List PatternItem → Prop where
  | nil : Reads [] []
  | anyText {s : List Char} {is : List PatternItem} (h : Reads s is) : Reads ('*' :: s) (.anyText :: is)
  | anyChar {s : List Char} {is : List PatternItem} (h : Reads s is) : Reads ('?' :: s) (.anyChar :: is)
  | oneOf {s body : List Char} {is : List PatternItem} (hbody : ClassBody body) (h : Reads s is) :
      Reads ('[' :: (body ++ ']' :: s)) (.oneOf (classOf body) :: is)
  | bracket {s : List Char} {is : List PatternItem} (hopen : ∀ body rest, ClassBody body → s ≠ body ++ ']' :: rest)
      (h : Reads s is) : Reads ('[' :: s) (.char '[' :: is)
  | char {c : Char} {s : List Char} {is : List PatternItem} (hc : c ∉ ['*', '?', '[']) (h : Reads s is) :
      Reads (c :: s) (.char c :: is)

theorem reads_items (fuel : Nat) {s : List Char} (h : s.length ≤ fuel) : Reads s (itemsFrom fuel s) := by
  fun_induction itemsFrom fuel s with
  | case1 s =>
    obtain rfl := List.length_eq_zero_iff.1 (Nat.le_zero.1 h)
    exact .nil
  | case2 fuel => exact .nil
  | case3 fuel s ih => exact .anyText (ih (Nat.le_of_succ_le_succ h))
  | case4 fuel s ih => exact .anyChar (ih (Nat.le_of_succ_le_succ h))
  | case5 fuel s body rest hbody ih =>
    obtain ⟨hclass, rfl⟩ := classBody_some hbody
    exact .oneOf hclass (ih (by simp at h; omega))
  | case6 fuel s hnone ih =>
    refine .bracket (fun body rest hclass hs => ?_) (ih (Nat.le_of_succ_le_succ h))
    rw [hs, classBody_append hclass] at hnone
    cases hnone
  | case7 fuel c s hany hone hclass ih =>
    exact .char (by simpa using ⟨hany, hone, hclass⟩) (ih (Nat.le_of_succ_le_succ h))

theorem exists_fuel {c : Char} {s : List Char} {fuel : Nat} (h : (c :: s).length ≤ fuel) :
    ∃ n, fuel = n + 1 ∧ s.length ≤ n := by
  obtain ⟨n, rfl⟩ := Nat.exists_eq_succ_of_ne_zero (Nat.ne_of_gt (Nat.zero_lt_of_lt h))
  exact ⟨n, rfl, Nat.le_of_succ_le_succ h⟩

theorem Reads.itemsFrom_eq {s : List Char} {is : List PatternItem} (h : Reads s is) {fuel : Nat}
    (hfuel : s.length ≤ fuel) : itemsFrom fuel s = is := by
  induction h generalizing fuel with
  | nil => cases fuel <;> rfl
  | anyText h ih =>
    obtain ⟨n, rfl, hn⟩ := exists_fuel hfuel
    rw [itemsFrom, ih hn]
  | anyChar h ih =>
    obtain ⟨n, rfl, hn⟩ := exists_fuel hfuel
    rw [itemsFrom, ih hn]
  | @oneOf s body is hbody h ih =>
    obtain ⟨n, rfl, hn⟩ := exists_fuel hfuel
    rw [itemsFrom, classBody_append hbody]
    dsimp only
    rw [ih (by simp at hn; omega)]
  | @bracket s is hopen h ih =>
    obtain ⟨n, rfl, hn⟩ := exists_fuel hfuel
    rw [itemsFrom]
    cases hbody : classBody s with
    | none => rw [ih hn]
    | some found =>
      obtain ⟨hclass, hs⟩ := classBody_some hbody
      exact absurd hs (hopen _ _ hclass)
  | @char c s is hc h ih =>
    obtain ⟨n, rfl, hn⟩ := exists_fuel hfuel
    simp only [List.mem_cons, List.not_mem_nil, or_false, not_or] at hc
    rw [itemsFrom, ih hn]
    · exact hc.1
    · exact hc.2.1
    · exact hc.2.2

/-- **A pattern text is read in one way.** -/
theorem reads_iff {pattern : String} {is : List PatternItem} : Reads pattern.toList is ↔ is = items pattern := by
  have hfuel : pattern.toList.length ≤ pattern.length := Nat.le_of_eq String.length_toList
  exact ⟨fun h => (h.itemsFrom_eq hfuel).symm, fun h => h ▸ reads_items _ hfuel⟩

/-! ## Names -/

/-- The pattern stands for the name: the name falls into pieces, one for each item. -/
def Matches (pattern name : String) : Prop :=
  ∃ pieces, List.Forall₂ PatternItem.StandsFor (items pattern) pieces ∧ pieces.flatten = name.toList

theorem mem_suffixes {s t : List Char} : t ∈ suffixes s ↔ t <:+ s := by
  induction s with
  | nil => simp [suffixes]
  | cons c s ih => rw [suffixes, List.mem_cons, ih, List.suffix_cons_iff]

/-- The first item takes the first piece. -/
theorem exists_pieces_cons {item : PatternItem} {rest : List PatternItem} {s : List Char} :
    (∃ pieces, List.Forall₂ PatternItem.StandsFor (item :: rest) pieces ∧ pieces.flatten = s) ↔
      ∃ t u, s = t ++ u ∧ item.StandsFor t ∧
        ∃ pieces, List.Forall₂ PatternItem.StandsFor rest pieces ∧ pieces.flatten = u := by
  constructor
  · rintro ⟨pieces, hpieces, rfl⟩
    obtain ⟨t, more, ht, hmore, rfl⟩ := List.forall₂_cons_left_iff.1 hpieces
    exact ⟨t, more.flatten, rfl, ht, more, hmore, rfl⟩
  · rintro ⟨t, u, rfl, ht, more, hmore, rfl⟩
    exact ⟨t :: more, .cons ht hmore, rfl⟩

theorem matchItems_iff {rest : List PatternItem} {s : List Char} : matchItems rest s = true ↔
    ∃ pieces, List.Forall₂ PatternItem.StandsFor rest pieces ∧ pieces.flatten = s := by
  induction rest generalizing s with
  | nil => cases s <;> simp [matchItems]
  | cons item rest ih =>
    have hcons : (∃ pieces, List.Forall₂ PatternItem.StandsFor (item :: rest) pieces ∧ pieces.flatten = s) ↔
        ∃ t u, s = t ++ u ∧ item.StandsFor t ∧ matchItems rest u = true := by
      simp only [exists_pieces_cons, ih]
    rw [hcons]
    cases item with
    | anyText =>
      simp only [matchItems, List.any_eq_true, mem_suffixes, PatternItem.StandsFor, true_and]
      exact ⟨fun ⟨u, ⟨t, ht⟩, hu⟩ => ⟨t, u, ht.symm, hu⟩, fun ⟨t, u, hs, hu⟩ => ⟨u, ⟨t, hs.symm⟩, hu⟩⟩
    | anyChar => cases s <;> simp [matchItems, PatternItem.StandsFor]
    | oneOf k => cases s <;> simp [matchItems, PatternItem.StandsFor]
    | char x =>
      cases s with
      | nil => simp [matchItems, PatternItem.StandsFor]
      | cons c s => simpa [matchItems, PatternItem.StandsFor] using fun _ => eq_comm

theorem accepts_iff {pattern name : String} : accepts pattern name = true ↔ Matches pattern name := matchItems_iff

end Pattern

end RouteDoc
