/-
Paths and the places they name.

In a workspace that is a tree of proper names (`Workspace.Sound`), following a
path component by component leads to where the normal form of the path leads
(`locate_absolute`): every directory that `..` takes back was there.
-/
import Mathlib.Data.List.Basic
import RouteDoc.Workspace

namespace RouteDoc

/-! ## Pieces of a text -/

namespace Text

section

variable {α : Type} [BEq α]

theorem splitAt_ne_nil (sep : α) (s : List α) : splitAt sep s ≠ [] := by
  induction s with
  | nil => simp [splitAt]
  | cons c s ih =>
    unfold splitAt
    split
    · simp
    · split <;> simp

variable [LawfulBEq α]

theorem splitAt_cons_sep (sep : α) (s : List α) : splitAt sep (sep :: s) = [] :: splitAt sep s := by
  rw [splitAt]
  split
  · exact absurd ‹_› (splitAt_ne_nil sep s)
  · rename_i h
    rw [h]; simp

theorem splitAt_append (sep : α) (s t : List α) :
    splitAt sep (s ++ sep :: t) = splitAt sep s ++ splitAt sep t := by
  induction s with
  | nil => exact splitAt_cons_sep sep t
  | cons c s ih =>
    rw [List.cons_append, splitAt, splitAt, ih]
    cases h : splitAt sep s with
    | nil => exact absurd h (splitAt_ne_nil sep s)
    | cons piece more =>
      simp only [List.cons_append]
      split <;> rfl

theorem splitAt_of_not_mem {sep : α} {s : List α} (h : sep ∉ s) : splitAt sep s = [s] := by
  induction s with
  | nil => rfl
  | cons c s ih =>
    simp only [List.mem_cons, not_or] at h
    rw [splitAt, ih h.2]
    simp [Ne.symm h.1]

theorem not_mem_splitAt {sep : α} {s piece : List α} (h : piece ∈ splitAt sep s) : sep ∉ piece := by
  induction s generalizing piece with
  | nil =>
    obtain rfl : piece = [] := by simpa [splitAt] using h
    simp
  | cons c s ih =>
    rw [splitAt] at h
    split at h
    · exact absurd ‹_› (splitAt_ne_nil sep s)
    rename_i first more hs
    rw [hs] at ih
    split at h
    · rcases List.mem_cons.1 h with rfl | h
      · simp
      · exact ih h
    · rename_i hc
      rcases List.mem_cons.1 h with rfl | h
      · have hfirst := ih List.mem_cons_self
        simp only [List.mem_cons, not_or]
        exact ⟨fun heq => hc (by simp [heq]), hfirst⟩
      · exact ih (List.mem_cons_of_mem _ h)

theorem splitAt_intercalate {sep : α} {pieces : List (List α)} (hne : pieces ≠ [])
    (h : ∀ piece ∈ pieces, sep ∉ piece) : splitAt sep (List.intercalate [sep] pieces) = pieces := by
  induction pieces with
  | nil => exact absurd rfl hne
  | cons piece pieces ih =>
    obtain ⟨hpiece, hpieces⟩ := List.forall_mem_cons.1 h
    cases pieces with
    | nil => simpa [List.intercalate] using splitAt_of_not_mem hpiece
    | cons piece' pieces =>
      rw [List.intercalate_cons_cons, List.append_assoc, List.singleton_append, splitAt_append,
        splitAt_of_not_mem hpiece, ih (by simp) hpieces]
      rfl

end

end Text

/-! ## Components -/

/-- A name that a place can have as a component. -/
structure ProperName (c : String) : Prop where
  nonempty : c ≠ ""
  dot : c ≠ "."
  dots : c ≠ ".."
  slash : '/' ∉ c.toList

instance (c : String) : Decidable (ProperName c) :=
  decidable_of_iff (c ≠ "" ∧ c ≠ "." ∧ c ≠ ".." ∧ '/' ∉ c.toList)
    ⟨fun ⟨h1, h2, h3, h4⟩ => ⟨h1, h2, h3, h4⟩, fun h => ⟨h.nonempty, h.dot, h.dots, h.slash⟩⟩

namespace PathText

theorem isAbsolute_iff {p : String} : isAbsolute p = true ↔ ∃ t, p.toList = '/' :: t := by
  rw [isAbsolute, String.startsWith_string_iff]
  constructor
  · rintro ⟨t, ht⟩; exact ⟨t, ht.symm⟩
  · rintro ⟨t, ht⟩; exact ⟨t, ht.symm⟩

theorem isAbsolute_of_not_mem {p : String} (h : '/' ∉ p.toList) : isAbsolute p = false := by
  rw [Bool.eq_false_iff]
  intro habs
  obtain ⟨t, ht⟩ := isAbsolute_iff.1 habs
  exact h (ht ▸ List.mem_cons_self)

theorem slash_not_mem_components {p c : String} (h : c ∈ components p) : '/' ∉ c.toList := by
  obtain ⟨piece, hpiece, rfl⟩ := List.mem_map.1 h
  rw [String.toList_ofList]
  exact Text.not_mem_splitAt hpiece

theorem components_append (p q : String) : components (p ++ "/" ++ q) = components p ++ components q := by
  unfold components
  have hchars : (p ++ "/" ++ q).toList = p.toList ++ '/' :: q.toList := by simp
  rw [hchars, Text.splitAt_append, List.map_append]

theorem components_empty : components "" = [""] := by simp [components, Text.splitAt]

theorem components_slash (p : String) : components ("/" ++ p) = "" :: components p := by
  have hsplit := components_append "" p
  rwa [String.empty_append, components_empty] at hsplit

theorem components_join {names : List String} (hne : names ≠ []) (h : ∀ c ∈ names, '/' ∉ c.toList) :
    components (Text.joinStrings "/" names) = names := by
  unfold components Text.joinStrings
  rw [String.toList_intercalate]
  have hsplit : Text.splitAt '/' (List.intercalate ['/'] (names.map String.toList)) = names.map String.toList :=
    Text.splitAt_intercalate (by simpa using hne) (by simpa using h)
  have hslash : "/".toList = ['/'] := by simp
  rw [hslash, hsplit, List.map_map]
  simp

theorem components_root (names : List String) (h : ∀ c ∈ names, '/' ∉ c.toList) :
    components ("/" ++ Text.joinStrings "/" names) = "" :: if names = [] then [""] else names := by
  rw [components_slash]
  split
  · rename_i hnil
    subst hnil
    simp [Text.joinStrings, components_empty]
  · rename_i hne
    rw [components_join hne h]

theorem normalStep_blank {done : List String} {c : String} (h : (c == "" || c == ".") = true) :
    normalStep true done c = done := by
  unfold normalStep
  rw [if_pos h]

theorem normalStep_proper {done : List String} {c : String} (h : ProperName c) :
    normalStep true done c = c :: done := by
  simp [normalStep, h.nonempty, h.dot, h.dots]

theorem foldl_normalStep_proper {names : List String} (h : ∀ c ∈ names, ProperName c) :
    names.foldl (normalStep true) [] = names.reverse := by
  have hfold : ∀ done, names.foldl (normalStep true) done = names.reverse ++ done := by
    induction names with
    | nil => exact fun _ => rfl
    | cons c names ih =>
      obtain ⟨hc, hnames⟩ := List.forall_mem_cons.1 h
      intro done
      rw [List.foldl_cons, normalStep_proper hc, ih hnames]
      simp
  simpa using hfold []

/-- A step from names leads to names. -/
theorem properNames_normalStep {done : List String} (hdone : ∀ c ∈ done, ProperName c) {c : String}
    (hc : '/' ∉ c.toList) : ∀ d ∈ normalStep true done c, ProperName d := by
  unfold normalStep
  split
  · exact hdone
  · rename_i hblank
    simp only [Bool.or_eq_true, beq_iff_eq, not_or] at hblank
    split
    · cases done with
      | nil => simp
      | cons d done =>
        obtain ⟨hd, hdone⟩ := List.forall_mem_cons.1 hdone
        simpa [hd.dots] using hdone
    · rename_i hdots
      exact List.forall_mem_cons.2 ⟨⟨hblank.1, hblank.2, by simpa using hdots, hc⟩, hdone⟩

theorem properNames_foldl {names : List String} (h : ∀ c ∈ names, '/' ∉ c.toList) :
    ∀ d ∈ names.foldl (normalStep true) [], ProperName d := by
  have hfold : ∀ done, (∀ c ∈ done, ProperName c) → ∀ d ∈ names.foldl (normalStep true) done, ProperName d := by
    induction names with
    | nil => exact fun _ hdone => hdone
    | cons c names ih =>
      obtain ⟨hc, hnames⟩ := List.forall_mem_cons.1 h
      exact fun done hdone => ih hnames _ (properNames_normalStep hdone hc)
  exact hfold [] (by simp)

/-- Names behind any root are the names themselves. -/
theorem foldl_root {root : String} (hroot : root = "/" ∨ root = "//") {names : List String}
    (h : ∀ c ∈ names, ProperName c) :
    (components (root ++ Text.joinStrings "/" names)).foldl (normalStep true) [] = names.reverse := by
  have hone : (components ("/" ++ Text.joinStrings "/" names)).foldl (normalStep true) [] = names.reverse := by
    rw [components_root names fun c hc => (h c hc).slash, List.foldl_cons, normalStep_blank (by simp)]
    split
    · rename_i hnil
      subst hnil
      rfl
    · exact foldl_normalStep_proper h
  rcases hroot with rfl | rfl
  · exact hone
  · have htext : "//" ++ Text.joinStrings "/" names = "/" ++ ("/" ++ Text.joinStrings "/" names) := by
      rw [← String.append_assoc]; rfl
    rw [htext, components_slash, List.foldl_cons, normalStep_blank (by simp)]
    exact hone

/-- A `..` takes the last name back. -/
theorem normalStep_dots {p : List String} (h : ∀ c ∈ p, ProperName c) :
    normalStep true p.reverse ".." = p.dropLast.reverse := by
  rcases List.eq_nil_or_concat p with rfl | ⟨p, d, rfl⟩
  · simp [normalStep]
  · have hd := (h d (by simp)).dots
    simp [normalStep, hd]

end PathText

/-! ## Places -/

namespace Workspace

/-- A workspace that is a tree of proper names, with a working directory in it. -/
structure Sound (w : Workspace) : Prop where
  distinct : (w.entries.map Prod.fst).Nodup
  proper : ∀ e ∈ w.entries, e.1 ≠ [] ∧ ∀ c ∈ e.1, ProperName c
  parents : ∀ e ∈ w.entries, w.entryAt e.1.dropLast = some .directory
  cwd : w.entryAt w.cwd = some .directory

instance (w : Workspace) : Decidable w.Sound :=
  decidable_of_iff ((w.entries.map Prod.fst).Nodup ∧ (∀ e ∈ w.entries, e.1 ≠ [] ∧ ∀ c ∈ e.1, ProperName c) ∧
      (∀ e ∈ w.entries, w.entryAt e.1.dropLast = some .directory) ∧ w.entryAt w.cwd = some .directory)
    ⟨fun ⟨h1, h2, h3, h4⟩ => ⟨h1, h2, h3, h4⟩, fun h => ⟨h.distinct, h.proper, h.parents, h.cwd⟩⟩

variable {w : Workspace}

theorem entryAt_nil : w.entryAt [] = some .directory := rfl

theorem mem_of_entryAt {p : Place} {e : Entry} (h : w.entryAt p = some e) (hp : p ≠ []) : (p, e) ∈ w.entries := by
  unfold entryAt at h
  rw [if_neg (by simpa using hp)] at h
  obtain ⟨x, hx, rfl⟩ := Option.map_eq_some_iff.1 h
  have hkey := List.find?_some hx
  rw [beq_iff_eq] at hkey
  exact hkey ▸ List.mem_of_find?_eq_some hx

namespace Sound

variable (hw : w.Sound)
include hw

theorem parent {p : Place} (h : (w.entryAt p).isSome = true) (hp : p ≠ []) :
    w.entryAt p.dropLast = some .directory := by
  obtain ⟨e, he⟩ := Option.isSome_iff_exists.1 h
  exact hw.parents _ (mem_of_entryAt he hp)

theorem names {p : Place} (h : (w.entryAt p).isSome = true) : ∀ c ∈ p, ProperName c := by
  by_cases hp : p = []
  · simp [hp]
  · obtain ⟨e, he⟩ := Option.isSome_iff_exists.1 h
    exact (hw.proper _ (mem_of_entryAt he hp)).2

/-- Above a directory there are directories only. -/
theorem take_directory {p : Place} (h : w.entryAt p = some .directory) (n : Nat) :
    w.entryAt (p.take n) = some .directory := by
  induction hlen : p.length - n generalizing n with
  | zero => rw [List.take_of_length_le (by omega)]; exact h
  | succ k ih =>
    have hnext := ih (n + 1) (by omega)
    have hne : p.take (n + 1) ≠ [] := by
      intro hnil
      rcases List.take_eq_nil_iff.1 hnil with hzero | rfl
      · cases hzero
      · simp at hlen
    have hparent := hw.parent (by rw [hnext]; rfl) hne
    rwa [List.dropLast_eq_take, List.length_take, List.take_take, Nat.min_eq_left (by omega),
      Nat.min_eq_left (by omega), Nat.add_sub_cancel] at hparent

end Sound

/-- A place in a directory, or the root. -/
def Reached (w : Workspace) (p : Place) : Prop := p = [] ∨ w.entryAt p.dropLast = some .directory

theorem follow_cons {p : Place} {c : String} {cs : List String} (h : w.entryAt p = some .directory) :
    w.follow p (c :: cs) =
      if c == "" || c == "." then w.follow p cs
      else if c == ".." then w.follow p.dropLast cs
      else w.follow (p ++ [c]) cs := by
  rw [follow, h]

theorem directory_of_follow {p q : Place} {c : String} {cs : List String} (h : w.follow p (c :: cs) = .ok q) :
    w.entryAt p = some .directory := by
  unfold follow at h
  split at h
  · cases h
  · cases h
  · assumption

/-- Following components leads to their normal form. -/
theorem follow_normal (hw : w.Sound) {p q : Place} {cs : List String} (hcs : ∀ c ∈ cs, '/' ∉ c.toList)
    (hp : ∀ c ∈ p, ProperName c) (hreached : w.Reached p) (h : w.follow p cs = .ok q) :
    cs.foldl (PathText.normalStep true) p.reverse = q.reverse ∧ (∀ c ∈ q, ProperName c) ∧ w.Reached q := by
  induction cs generalizing p with
  | nil =>
    obtain rfl : p = q := by simpa [follow] using h
    exact ⟨rfl, hp, hreached⟩
  | cons c cs ih =>
    obtain ⟨hc, hrest⟩ := List.forall_mem_cons.1 hcs
    have hdir := directory_of_follow h
    rw [follow_cons hdir] at h
    rw [List.foldl_cons]
    split at h
    · rename_i hblank
      rw [PathText.normalStep_blank hblank]
      exact ih hrest hp hreached h
    rename_i hblank
    split at h
    · rename_i hdots
      obtain rfl : c = ".." := by simpa using hdots
      rw [PathText.normalStep_dots hp]
      refine ih hrest (fun d hd => hp d (List.dropLast_subset p hd)) ?_ h
      by_cases hnil : p = []
      · exact .inl (by rw [hnil]; rfl)
      have hparent := hw.parent (by rw [hdir]; rfl) hnil
      by_cases hnil' : p.dropLast = []
      · exact .inl hnil'
      · exact .inr (hw.parent (by rw [hparent]; rfl) hnil')
    · rename_i hdots
      simp only [Bool.or_eq_true, beq_iff_eq, not_or] at hblank hdots
      have hproper : ProperName c := ⟨hblank.1, hblank.2, hdots, hc⟩
      have hnext : ∀ d ∈ p ++ [c], ProperName d := by
        intro d hd
        rcases List.mem_append.1 hd with hd | hd
        · exact hp d hd
        · rw [List.mem_singleton.1 hd]; exact hproper
      have hstep := ih hrest hnext (.inr (by simpa using hdir)) h
      rwa [PathText.normalStep_proper hproper, ← List.reverse_concat]

/-- A place can be reached by its own components. -/
theorem follow_place {p rest : Place} (hrest : ∀ c ∈ rest, ProperName c)
    (hdir : ∀ n < rest.length, w.entryAt (p ++ rest.take n) = some .directory) :
    w.follow p rest = .ok (p ++ rest) := by
  induction rest generalizing p with
  | nil => simp [follow]
  | cons c rest ih =>
    obtain ⟨hc, hrest⟩ := List.forall_mem_cons.1 hrest
    have hp := hdir 0 (by simp)
    rw [List.take_zero, List.append_nil] at hp
    rw [follow_cons hp]
    have hblank : (c == "" || c == ".") = false := by simp [hc.nonempty, hc.dot]
    have hdots : (c == "..") = false := by simp [hc.dots]
    simp only [hblank, hdots, Bool.false_eq_true, if_false]
    rw [ih hrest]
    · simp
    · intro n hn
      have := hdir (n + 1) (by simpa using hn)
      simpa using this

theorem Sound.reached_prefix (hw : w.Sound) {q : Place} (h : w.Reached q) {n : Nat} (hn : n < q.length) :
    w.entryAt (q.take n) = some .directory := by
  rcases h with rfl | h
  · simp at hn
  · have htake := hw.take_directory h n
    rwa [List.dropLast_eq_take, List.take_take, Nat.min_eq_left (by omega)] at htake

end Workspace

/-! ## Absolute paths -/

namespace PathText

theorem endsWith_slash_iff {p : String} : p.endsWith "/" = true ↔ ∃ q, p = q ++ "/" := by
  show p.toSlice.endsWith "/" = true ↔ _
  rw [String.Slice.endsWith_string_iff]
  simp only [String.copy_toSlice]
  constructor
  · rintro ⟨t, ht⟩
    exact ⟨String.ofList t, String.toList_injective (by simpa using ht.symm)⟩
  · rintro ⟨q, rfl⟩
    simp

/-- Only a text with an empty last component ends in a slash. -/
theorem getLast_components_of_endsWith {p : String} (h : p.endsWith "/" = true) :
    (components p).getLast? = some "" := by
  obtain ⟨q, rfl⟩ := endsWith_slash_iff.1 h
  have hsplit := components_append q ""
  rw [String.append_empty, components_empty] at hsplit
  rw [hsplit]
  simp

end PathText

namespace Workspace

variable {w : Workspace}

theorem components_join_cwd (hw : w.Sound) {path : String} (hpath : PathText.isAbsolute path = false) :
    PathText.components (PathText.join w.cwdText path) = "" :: (w.cwd ++ PathText.components path) := by
  have hproper : ∀ c ∈ w.cwd, ProperName c := hw.names (by rw [hw.cwd]; rfl)
  have hroot := PathText.components_root w.cwd fun c hc => (hproper c hc).slash
  by_cases hcwd : w.cwd = []
  · have hjoin : PathText.join w.cwdText path = "/" ++ path := by
      have htext : w.cwdText = "/" := by rw [cwdText, placeText, hcwd]; rfl
      have hends : "/".endsWith "/" = true := PathText.endsWith_slash_iff.2 ⟨"", rfl⟩
      rw [htext, PathText.join, hpath, hends]
      simp
    rw [hjoin, PathText.components_slash, hcwd]
    rfl
  · rw [if_neg hcwd] at hroot
    have hjoin : PathText.join w.cwdText path = w.cwdText ++ "/" ++ path := by
      have hends : w.cwdText.endsWith "/" = false := by
        rw [Bool.eq_false_iff]
        intro hends
        have hlast := PathText.getLast_components_of_endsWith hends
        rw [cwdText, placeText, hroot, List.getLast?_cons, List.getLast?_eq_getLast_of_ne_nil hcwd] at hlast
        exact (hproper _ (List.getLast_mem hcwd)).nonempty (by simpa using hlast)
      have hempty : w.cwdText.isEmpty = false := by
        rw [cwdText, placeText]
        simp
      rw [PathText.join, hpath, hempty, hends]
      simp
    rw [hjoin, PathText.components_append, cwdText, placeText, hroot]
    rfl

theorem isAbsolute_join_cwd (path : String) : PathText.isAbsolute (PathText.join w.cwdText path) = true := by
  unfold PathText.join
  split
  · assumption
  · split <;> exact PathText.isAbsolute_iff.2 ⟨_, by rw [cwdText, placeText]; simp; rfl⟩

/-- The components of the normal form of a path that can be followed. -/
theorem normal_components (hw : w.Sound) {path : String} {q : Place} (h : w.locate path = .ok q) :
    (PathText.components (PathText.join w.cwdText path)).foldl (PathText.normalStep true) [] = q.reverse ∧
      (∀ c ∈ q, ProperName c) ∧ w.Reached q := by
  have hfollow : w.follow (if PathText.isAbsolute path then [] else w.cwd) (PathText.components path) = .ok q := by
    unfold locate at h
    split at h
    · cases h
    · exact h
  have hslash : ∀ c ∈ PathText.components path, '/' ∉ c.toList := fun c hc =>
    PathText.slash_not_mem_components hc
  cases habs : PathText.isAbsolute path with
  | true =>
    rw [habs, if_pos rfl] at hfollow
    have hjoin : PathText.join w.cwdText path = path := by rw [PathText.join, habs, if_pos rfl]
    rw [hjoin]
    exact follow_normal hw hslash (by simp) (.inl rfl) hfollow
  | false =>
    rw [habs, if_neg (by simp)] at hfollow
    have hproper : ∀ c ∈ w.cwd, ProperName c := hw.names (by rw [hw.cwd]; rfl)
    have hreached : w.Reached w.cwd := by
      by_cases hcwd : w.cwd = []
      · exact .inl hcwd
      · exact .inr (hw.parent (by rw [hw.cwd]; rfl) hcwd)
    rw [components_join_cwd hw habs, List.foldl_cons, PathText.normalStep_blank (by simp), List.foldl_append,
      PathText.foldl_normalStep_proper hproper]
    exact follow_normal hw hslash hproper hreached hfollow

/-- A place is found by its components below any root. -/
theorem locate_root (hw : w.Sound) {root : String} (hroot : root = "/" ∨ root = "//") {q : Place}
    (hproper : ∀ c ∈ q, ProperName c) (hreached : w.Reached q) :
    w.locate (root ++ Text.joinStrings "/" q) = .ok q := by
  have hplace : w.follow [] (if q = [] then [""] else q) = .ok q := by
    split
    · rename_i hq
      rw [hq, follow_cons entryAt_nil]
      simp [follow]
    · have h := follow_place (w := w) (p := []) hproper fun n hn => by
        rw [List.nil_append]
        exact hw.reached_prefix hreached hn
      rwa [List.nil_append] at h
  have hcomponents := PathText.components_root q fun c hc => (hproper c hc).slash
  rcases hroot with rfl | rfl
  · have habs : PathText.isAbsolute ("/" ++ Text.joinStrings "/" q) = true :=
      PathText.isAbsolute_iff.2 ⟨_, by simp; rfl⟩
    rw [locate, if_neg (by simp), habs, if_pos rfl, hcomponents, follow_cons entryAt_nil]
    simpa using hplace
  · have htext : "//" ++ Text.joinStrings "/" q = "/" ++ ("/" ++ Text.joinStrings "/" q) := by
      rw [← String.append_assoc]; rfl
    have habs : PathText.isAbsolute ("//" ++ Text.joinStrings "/" q) = true :=
      PathText.isAbsolute_iff.2 ⟨_, by simp; rfl⟩
    rw [locate, if_neg (by simp), habs, if_pos rfl, htext, PathText.components_slash, hcomponents,
      follow_cons entryAt_nil]
    simp only [beq_self_eq_true, Bool.true_or, if_true]
    rw [follow_cons entryAt_nil]
    simpa using hplace

theorem rootText_join_cwd (path : String) : PathText.rootText (PathText.join w.cwdText path) = "/" ∨
    PathText.rootText (PathText.join w.cwdText path) = "//" := by
  unfold PathText.rootText
  rw [isAbsolute_join_cwd]
  split
  · exact .inr rfl
  · exact .inl rfl

/-- An absolute path is its root and the names behind it. -/
theorem absolute_eq (path : String) :
    PathText.absolute w.cwdText path = PathText.rootText (PathText.join w.cwdText path) ++ Text.joinStrings "/"
      ((PathText.components (PathText.join w.cwdText path)).foldl (PathText.normalStep true) []).reverse := by
  unfold PathText.absolute PathText.normal
  rw [isAbsolute_join_cwd]
  dsimp only
  rw [if_neg]
  rcases rootText_join_cwd (w := w) path with hroot | hroot <;> rw [hroot] <;> simp

/-- **The absolute path** of a path that can be followed leads to the same place. -/
theorem locate_absolute (hw : w.Sound) {path : String} {q : Place} (h : w.locate path = .ok q) :
    w.locate (PathText.absolute w.cwdText path) = .ok q := by
  obtain ⟨hnormal, hproper, hreached⟩ := normal_components hw h
  rw [absolute_eq, hnormal, List.reverse_reverse]
  exact locate_root hw (rootText_join_cwd path) hproper hreached

/-- Two absolute paths to one place are the same, but for their roots. -/
theorem absolute_of_locate (hw : w.Sound) {path : String} {q : Place}
    (h : w.locate (PathText.absolute w.cwdText path) = .ok q) :
    PathText.absolute w.cwdText path =
      PathText.rootText (PathText.join w.cwdText path) ++ Text.joinStrings "/" q := by
  have hproper : ∀ c ∈ ((PathText.components (PathText.join w.cwdText path)).foldl (PathText.normalStep true)
      []).reverse, ProperName c := by
    intro c hc
    exact PathText.properNames_foldl (fun _ => PathText.slash_not_mem_components) c (List.mem_reverse.1 hc)
  have habsolute := absolute_eq (w := w) path
  revert hproper habsolute
  generalize ((PathText.components (PathText.join w.cwdText path)).foldl (PathText.normalStep true) []).reverse = names
  intro hproper habsolute
  obtain ⟨hnames, -⟩ := normal_components hw h
  rw [habsolute] at hnames ⊢
  have hroot := rootText_join_cwd (w := w) path
  have hjoin : PathText.join w.cwdText
      (PathText.rootText (PathText.join w.cwdText path) ++ Text.joinStrings "/" names) =
        PathText.rootText (PathText.join w.cwdText path) ++ Text.joinStrings "/" names := by
    have habs : PathText.isAbsolute
        (PathText.rootText (PathText.join w.cwdText path) ++ Text.joinStrings "/" names) = true := by
      rcases hroot with hroot | hroot <;> rw [hroot] <;> exact PathText.isAbsolute_iff.2 ⟨_, by simp; rfl⟩
    rw [PathText.join, habs, if_pos rfl]
  rw [hjoin, PathText.foldl_root hroot hproper, List.reverse_inj] at hnames
  rw [hnames]

end Workspace

end RouteDoc
