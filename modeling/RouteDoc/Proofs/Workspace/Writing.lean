/-
Files written over files.

A file that is written where a file was leaves the tree as it was but for its
bytes (`Alike`): every path leads where it led before, and every other place has
what it had (`entryAt_put`). Two trees of one shape with the same entries are one
workspace (`Alike.eq_of_entryAt`).
-/
import Mathlib.Data.List.Forall2
import RouteDoc.Proofs.Workspace.Paths

namespace RouteDoc.Workspace

/-- The same tree, with other bytes in its files. -/
structure Alike (w w' : Workspace) : Prop where
  cwd : w.cwd = w'.cwd
  entries : List.Forall₂ (fun x y => x.1 = y.1 ∧ (x.2 = .directory ↔ y.2 = .directory)) w.entries w'.entries

variable {w w' w'' : Workspace}

namespace Alike

theorem refl (w : Workspace) : w.Alike w := ⟨rfl, List.forall₂_same.2 fun _ _ => ⟨rfl, Iff.rfl⟩⟩

theorem symm (h : w.Alike w') : w'.Alike w :=
  ⟨h.cwd.symm, (h.entries.imp fun _ _ hxy => ⟨hxy.1.symm, hxy.2.symm⟩).flip⟩

theorem trans (h : w.Alike w') (h' : w'.Alike w'') : w.Alike w'' := by
  refine ⟨h.cwd.trans h'.cwd, ?_⟩
  obtain ⟨hlen, hget⟩ := List.forall₂_iff_get.1 h.entries
  obtain ⟨hlen', hget'⟩ := List.forall₂_iff_get.1 h'.entries
  refine List.forall₂_iff_get.2 ⟨hlen.trans hlen', fun i hi hi'' => ?_⟩
  have hi' : i < w'.entries.length := hlen ▸ hi
  exact ⟨(hget i hi hi').1.trans (hget' i hi' hi'').1, (hget i hi hi').2.trans (hget' i hi' hi'').2⟩

theorem keys (h : w.Alike w') : w.entries.map Prod.fst = w'.entries.map Prod.fst := by
  obtain ⟨hlen, hget⟩ := List.forall₂_iff_get.1 h.entries
  refine List.ext_get (by simpa using hlen) fun i hi hi' => ?_
  simpa using (hget i (by simpa using hi) (by simpa using hi')).1

/-- At every place there is the same sort of entry. -/
theorem entryAt (h : w.Alike w') (p : Place) :
    Option.Rel (fun e e' => e = .directory ↔ e' = .directory) (w.entryAt p) (w'.entryAt p) := by
  unfold Workspace.entryAt
  split
  · exact .some Iff.rfl
  have hentries := h.entries
  revert hentries
  generalize w.entries = xs
  generalize w'.entries = ys
  intro hentries
  induction hentries with
  | nil => exact .none
  | cons hxy _ ih =>
    rw [List.find?_cons, List.find?_cons, hxy.1]
    split
    · exact .some hxy.2
    · exact ih

theorem directory_iff (h : w.Alike w') (p : Place) :
    w.entryAt p = some .directory ↔ w'.entryAt p = some .directory := by
  have hrel := h.entryAt p
  revert hrel
  generalize w.entryAt p = x
  generalize w'.entryAt p = y
  intro hrel
  cases hrel with
  | none => simp
  | some hxy => simpa using hxy

theorem isSome_eq (h : w.Alike w') (p : Place) : (w.entryAt p).isSome = (w'.entryAt p).isSome := by
  have hrel := h.entryAt p
  revert hrel
  generalize w.entryAt p = x
  generalize w'.entryAt p = y
  intro hrel
  cases hrel <;> rfl

theorem follow (h : w.Alike w') (p : Place) (cs : List String) : w.follow p cs = w'.follow p cs := by
  induction cs generalizing p with
  | nil => rfl
  | cons c cs ih =>
    unfold Workspace.follow
    have hrel := h.entryAt p
    revert hrel
    generalize w.entryAt p = x
    generalize w'.entryAt p = y
    intro hrel
    cases hrel with
    | none => rfl
    | @some e e' he =>
      cases e with
      | directory => rw [he.1 rfl, ih, ih, ih]
      | file bytes =>
        cases e' with
        | directory => cases he.2 rfl
        | file bytes' => rfl

theorem locate (h : w.Alike w') (path : String) : w.locate path = w'.locate path := by
  unfold Workspace.locate
  rw [h.cwd, h.follow]

theorem cwdText (h : w.Alike w') : w.cwdText = w'.cwdText := by
  unfold Workspace.cwdText
  rw [h.cwd]

theorem sound (h : w.Alike w') (hw : w.Sound) : w'.Sound where
  distinct := h.keys ▸ hw.distinct
  proper e he := by
    have hkey : e.1 ∈ w.entries.map Prod.fst := h.keys ▸ List.mem_map_of_mem he
    obtain ⟨e', he', hkey⟩ := List.mem_map.1 hkey
    exact hkey ▸ hw.proper e' he'
  parents e he := by
    have hkey : e.1 ∈ w.entries.map Prod.fst := h.keys ▸ List.mem_map_of_mem he
    obtain ⟨e', he', hkey⟩ := List.mem_map.1 hkey
    exact (h.directory_iff _).1 (hkey ▸ hw.parents e' he')
  cwd := h.cwd ▸ (h.directory_iff _).1 hw.cwd

end Alike

/-! ## Entries -/

theorem Sound.entryAt_of_mem (hw : w.Sound) {p : Place} {e : Entry} (h : (p, e) ∈ w.entries) :
    w.entryAt p = some e := by
  unfold Workspace.entryAt
  rw [if_neg (by simpa using (hw.proper _ h).1)]
  have hdistinct := hw.distinct
  revert h hdistinct
  generalize w.entries = xs
  intro h hdistinct
  induction xs with
  | nil => cases h
  | cons x xs ih =>
    rw [List.map_cons, List.nodup_cons] at hdistinct
    rw [List.find?_cons]
    rcases List.mem_cons.1 h with rfl | h
    · simp
    · have hne : (x.1 == p) = false := by
        rw [beq_eq_false_iff_ne]
        rintro rfl
        exact hdistinct.1 (List.mem_map.2 ⟨_, h, rfl⟩)
      rw [hne]
      exact ih h hdistinct.2

/-- Two trees of one shape with the same entries are one. -/
theorem Alike.eq_of_entryAt (h : w.Alike w') (hw : w.Sound) (he : ∀ p, w.entryAt p = w'.entryAt p) : w = w' := by
  obtain ⟨hlen, hget⟩ := List.forall₂_iff_get.1 h.entries
  have hentries : w.entries = w'.entries := by
    refine List.ext_get hlen fun i hi hi' => ?_
    have hkey := (hget i hi hi').1
    have h1 := hw.entryAt_of_mem (p := (w.entries.get ⟨i, hi⟩).1) (List.get_mem w.entries ⟨i, hi⟩)
    have h2 := (h.sound hw).entryAt_of_mem (p := (w'.entries.get ⟨i, hi'⟩).1) (List.get_mem w'.entries ⟨i, hi'⟩)
    rw [he, hkey, h2] at h1
    exact Prod.ext hkey (Option.some.inj h1).symm
  obtain ⟨entries, cwd⟩ := w
  obtain ⟨entries', cwd'⟩ := w'
  obtain rfl : entries = entries' := hentries
  obtain rfl : cwd = cwd' := h.cwd
  rfl

/-! ## Writing -/

variable {q : Place} {bytes : List UInt8}

theorem entryAt_file_ne_nil (h : w.entryAt q = some (.file bytes)) : q ≠ [] := by
  rintro rfl
  cases h

theorem any_key_of_entryAt (h : w.entryAt q = some (.file bytes)) :
    (w.entries.any fun x => x.1 == q) = true :=
  List.any_eq_true.2 ⟨_, mem_of_entryAt h (entryAt_file_ne_nil h), by simp⟩

/-- A file over a file keeps the tree. -/
theorem alike_put (hw : w.Sound) (h : w.entryAt q = some (.file bytes)) (bytes' : List UInt8) :
    w.Alike (w.put q (.file bytes')) := by
  rw [put, if_pos (any_key_of_entryAt h)]
  refine ⟨rfl, List.forall₂_map_right_iff.2 (List.forall₂_same.2 fun x hx => ?_)⟩
  by_cases hkey : x.1 = q
  · have he := hw.entryAt_of_mem (p := x.1) hx
    rw [hkey, h] at he
    rw [if_pos (by simpa using hkey), ← Option.some.inj he]
    simp [hkey]
  · rw [if_neg (by simpa using hkey)]
    exact ⟨rfl, Iff.rfl⟩

/-- What is at a place after a file was written over a file. -/
theorem entryAt_put (h : w.entryAt q = some (.file bytes)) (e : Entry) (p : Place) :
    (w.put q e).entryAt p = if p = q then some e else w.entryAt p := by
  have hq := entryAt_file_ne_nil h
  have hany := any_key_of_entryAt h
  rw [put, if_pos hany]
  unfold Workspace.entryAt
  by_cases hp : p = []
  · subst hp
    simp [Ne.symm hq]
  simp only [List.isEmpty_iff, hp, if_false]
  revert hany
  generalize w.entries = xs
  intro hany
  split
  · subst p
    induction xs with
    | nil => simp at hany
    | cons x xs ih =>
      rw [List.map_cons, List.find?_cons]
      by_cases hkey : x.1 = q
      · simp [hkey]
      · have hne : (x.1 == q) = false := by simpa using hkey
        simp only [hne, Bool.false_eq_true, if_false]
        exact ih (by simpa [hne] using hany)
  · rename_i hpq
    clear hany
    induction xs with
    | nil => rfl
    | cons x xs ih =>
      rw [List.map_cons, List.find?_cons, List.find?_cons]
      by_cases hkey : x.1 = q
      · have hne : (q == p) = false := by simpa using Ne.symm hpq
        simp only [hkey, beq_self_eq_true, if_true, hne]
        exact ih
      · have hne : (x.1 == q) = false := by simpa using hkey
        simp only [hne, Bool.false_eq_true, if_false]
        split
        · rfl
        · exact ih

theorem entryAt_put_self (h : w.entryAt q = some (.file bytes)) (e : Entry) : (w.put q e).entryAt q = some e := by
  rw [entryAt_put h, if_pos rfl]

theorem entryAt_put_ne (h : w.entryAt q = some (.file bytes)) (e : Entry) {p : Place} (hp : p ≠ q) :
    (w.put q e).entryAt p = w.entryAt p := by
  rw [entryAt_put h, if_neg hp]

/-- A file written as it is. -/
theorem put_self (hw : w.Sound) (h : w.entryAt q = some (.file bytes)) : w.put q (.file bytes) = w := by
  refine ((alike_put hw h bytes).eq_of_entryAt hw fun p => ?_).symm
  rw [entryAt_put h]
  split
  · subst p; exact h
  · rfl

/-- Of two files written at one place the last one counts. -/
theorem put_put (hw : w.Sound) (h : w.entryAt q = some (.file bytes)) (bytes' bytes'' : List UInt8) :
    (w.put q (.file bytes')).put q (.file bytes'') = w.put q (.file bytes'') := by
  have h' : (w.put q (.file bytes')).entryAt q = some (.file bytes') := entryAt_put_self h _
  have halike := alike_put hw h bytes'
  refine ((alike_put (halike.sound hw) h' bytes'').symm.trans (halike.symm.trans (alike_put hw h bytes''))).eq_of_entryAt
    ((alike_put (halike.sound hw) h' bytes'').sound (halike.sound hw)) fun p => ?_
  rw [entryAt_put h', entryAt_put h, entryAt_put h]
  split <;> rfl

/-! ## Reading -/

theorem read_eq_ok_iff {path : String} :
    w.read path = .ok bytes ↔ ∃ q, w.locate path = .ok q ∧ w.entryAt q = some (.file bytes) := by
  unfold read
  constructor
  · intro h
    split at h
    · cases h
    · rename_i q hq
      refine ⟨q, hq, ?_⟩
      split at h
      · cases h
      · cases h
      · rename_i he
        rw [he, Except.ok.inj h]
  · rintro ⟨q, hq, he⟩
    simp only [hq, he]

theorem read_put (hw : w.Sound) (h : w.entryAt q = some (.file bytes)) {path : String}
    (hq : w.locate path = .ok q) (bytes' : List UInt8) : (w.put q (.file bytes')).read path = .ok bytes' :=
  read_eq_ok_iff.2 ⟨q, by rw [← (alike_put hw h bytes').locate]; exact hq, entryAt_put_self h _⟩

/-- What is read depends on the place only. -/
theorem read_congr {path : String} (hq : w.locate path = .ok q) (hq' : w'.locate path = .ok q)
    (he : w.entryAt q = w'.entryAt q) : w.read path = w'.read path := by
  unfold read
  simp only [hq, hq', he]

theorem Alike.read_eq (h : w.Alike w') {path : String}
    (he : ∀ q, w.locate path = .ok q → w.entryAt q = w'.entryAt q) : w.read path = w'.read path := by
  unfold read
  rw [← h.locate path]
  cases hq : w.locate path with
  | error fault => rfl
  | ok q => simp only [he q hq]

end RouteDoc.Workspace
