/-
Lists of entries with a key.

Route tables and request types are both lists of entries that are made one after
the other: entering a key again replaces its value and leaves its place. Such a
list has a key when some entry was for it, has for it the value of the last such
entry (`get?_ofEntries`), and lists the keys in the order of their first entries
(`keys_ofEntries_order`).
-/
import Mathlib.Data.List.Basic
import Mathlib.Data.List.Induction

namespace RouteDoc.Keyed

variable {α : Type}

/-- The keys of a list, in order. -/
def keys (t : List (String × α)) : List String := t.map Prod.fst

/-- The value of the first entry of a key. -/
def get? (t : List (String × α)) (k : String) : Option α :=
  (t.find? fun e => e.1 == k).map (·.2)

/-- The list with a value entered for a key. -/
def insert (t : List (String × α)) (k : String) (v : α) : List (String × α) :=
  if t.any fun e => e.1 == k then t.map fun e => if e.1 == k then (k, v) else e
  else t ++ [(k, v)]

/-- The list of entries that are made one after the other. -/
def ofEntries (es : List (String × α)) : List (String × α) :=
  es.foldl (fun t e => insert t e.1 e.2) []

theorem any_eq_true_iff {t : List (String × α)} {k : String} : (t.any fun e => e.1 == k) = true ↔ k ∈ keys t := by
  simp [keys]

/-- Entering a key again leaves its place. -/
theorem keys_insert (t : List (String × α)) (k : String) (v : α) :
    keys (insert t k v) = if k ∈ keys t then keys t else keys t ++ [k] := by
  unfold insert
  by_cases h : k ∈ keys t
  · rw [if_pos (any_eq_true_iff.2 h), if_pos h, keys, keys, List.map_map]
    refine List.map_congr_left fun e _ => ?_
    rw [Function.comp_apply]
    split
    · rename_i heq
      exact (beq_iff_eq.1 heq).symm
    · rfl
  · rw [if_neg (fun hany => h (any_eq_true_iff.1 hany)), if_neg h]
    simp [keys]

theorem get?_cons (e : String × α) (t : List (String × α)) (k : String) :
    get? (e :: t) k = if e.1 = k then some e.2 else get? t k := by
  unfold get?
  rw [List.find?_cons]
  by_cases h : e.1 = k
  · simp [h]
  · have hne : (e.1 == k) = false := by simpa using h
    rw [hne, if_neg h]

/-- Looking up what was entered. -/
theorem get?_insert (t : List (String × α)) (k k' : String) (v : α) :
    get? (insert t k v) k' = if k = k' then some v else get? t k' := by
  unfold insert
  by_cases h : k ∈ keys t
  · rw [if_pos (any_eq_true_iff.2 h)]
    by_cases hkk : k = k'
    · subst hkk
      rw [if_pos rfl]
      induction t with
      | nil => cases h
      | cons e t ih =>
        rw [List.map_cons, get?_cons]
        by_cases hek : e.1 = k
        · simp [hek]
        · have ht : k ∈ keys t := by simpa [keys, Ne.symm hek] using h
          simpa [hek] using ih ht
    · rw [if_neg hkk]
      clear h
      induction t with
      | nil => rfl
      | cons e t ih =>
        rw [List.map_cons, get?_cons, get?_cons, ih]
        by_cases hek : e.1 = k
        · simp [hek, hkk]
        · simp [hek]
  · rw [if_neg fun hany => h (any_eq_true_iff.1 hany)]
    induction t with
    | nil => rw [List.nil_append, get?_cons]
    | cons e t ih =>
      simp only [keys, List.map_cons, List.mem_cons, not_or] at h
      rw [List.cons_append, get?_cons, get?_cons, ih h.2]
      by_cases hek : e.1 = k'
      · rw [if_pos hek, if_pos hek, if_neg (by rw [← hek]; exact h.1)]
      · rw [if_neg hek, if_neg hek]

/-! ## Entries one after the other -/

theorem ofEntries_concat (es : List (String × α)) (e : String × α) :
    ofEntries (es ++ [e]) = insert (ofEntries es) e.1 e.2 := by
  rw [ofEntries, List.foldl_append]
  rfl

theorem mem_keys_ofEntries (es : List (String × α)) (k : String) :
    k ∈ keys (ofEntries es) ↔ k ∈ es.map Prod.fst := by
  induction es using List.reverseRecOn with
  | nil => exact Iff.rfl
  | append_singleton es e ih =>
    rw [ofEntries_concat, keys_insert, List.map_append, List.mem_append, ← ih]
    split
    · rename_i h
      simp only [List.map_cons, List.map_nil, List.mem_singleton]
      exact ⟨.inl, fun hk => hk.elim id fun heq => heq ▸ h⟩
    · simp [List.mem_append]

/-- **The last entry counts.** -/
theorem get?_ofEntries (es : List (String × α)) (k : String) :
    get? (ofEntries es) k = ((es.filter fun e => e.1 == k).getLast?).map Prod.snd := by
  induction es using List.reverseRecOn with
  | nil => rfl
  | append_singleton es e ih =>
    rw [ofEntries_concat, get?_insert, ih, List.filter_append]
    by_cases hek : e.1 = k
    · simp [hek]
    · simp [hek]

/-- **The first entry gives the place.** -/
theorem keys_ofEntries_order (es : List (String × α)) :
    (keys (ofEntries es)).Pairwise fun a b => (es.map Prod.fst).idxOf a < (es.map Prod.fst).idxOf b := by
  induction es using List.reverseRecOn with
  | nil => exact .nil
  | append_singleton es e ih =>
    -- The place of a name that is there stays, and that of a new one is behind all others.
    have hold : ∀ a ∈ keys (ofEntries es), ((es ++ [e]).map Prod.fst).idxOf a = (es.map Prod.fst).idxOf a := by
      intro a ha
      rw [List.map_append]
      exact List.idxOf_append_of_mem ((mem_keys_ofEntries es a).1 ha)
    have hkeys := ih.imp_of_mem fun {a b} ha hb hlt => by
      rw [← hold a ha, ← hold b hb] at hlt
      exact hlt
    rw [ofEntries_concat, keys_insert]
    split
    · exact hkeys
    · rename_i hnew
      rw [mem_keys_ofEntries] at hnew
      refine List.pairwise_append.2 ⟨hkeys, List.pairwise_singleton _ _, fun a ha b hb => ?_⟩
      obtain rfl := List.mem_singleton.1 hb
      rw [hold a ha, List.map_append, List.idxOf_append_of_notMem hnew]
      have hlt := List.idxOf_lt_length_of_mem ((mem_keys_ofEntries es a).1 ha)
      omega

end RouteDoc.Keyed
