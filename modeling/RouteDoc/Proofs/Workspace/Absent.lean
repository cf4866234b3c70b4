/-
A tree without some of its files.

On the way to a place only directories are passed, so a path leads to the same
place in a tree and in the tree without some of its files (`locate_without`).
What a pattern stands for is what it was, less the paths that lead to a file that
is gone (`expandFrom_without`, `typeFiles_without`), and so are the handler files
(`handlerFiles_without`).
-/
import Mathlib.Data.List.Basic
import RouteDoc.Proofs.Workspace.Globs

namespace RouteDoc

/-! ## Lists in order -/

namespace Text

theorem codePointLE_total (a b : List Char) : (codePointLE a b || codePointLE b a) = true := by
  induction a generalizing b with
  | nil => rfl
  | cons x a ih =>
    cases b with
    | nil => rfl
    | cons y b =>
      have hrest := ih b
      simp only [codePointLE, Bool.or_eq_true, Bool.and_eq_true, decide_eq_true_eq, beq_iff_eq] at hrest ⊢
      rcases Nat.lt_trichotomy x.toNat y.toNat with h | h | h
      · exact .inl (.inl h)
      · obtain rfl : x = y := Char.toNat_inj.1 h
        exact hrest.imp (fun h => .inr ⟨rfl, h⟩) fun h => .inr ⟨rfl, h⟩
      · exact .inr (.inl h)

theorem codePointLE_trans {a b c : List Char} (hab : codePointLE a b = true) (hbc : codePointLE b c = true) :
    codePointLE a c = true := by
  induction a generalizing b c with
  | nil => rfl
  | cons x a ih =>
    cases b with
    | nil => cases hab
    | cons y b =>
      cases c with
      | nil => cases hbc
      | cons z c =>
        simp only [codePointLE, Bool.or_eq_true, Bool.and_eq_true, decide_eq_true_eq, beq_iff_eq] at hab hbc ⊢
        rcases hab with hxy | ⟨rfl, hab⟩
        · rcases hbc with hyz | ⟨rfl, -⟩
          · exact .inl (Nat.lt_trans hxy hyz)
          · exact .inl hxy
        · rcases hbc with hyz | ⟨rfl, hbc⟩
          · exact .inl hyz
          · exact .inr ⟨rfl, ih hab hbc⟩

theorem codePointLE_antisymm {a b : List Char} (hab : codePointLE a b = true) (hba : codePointLE b a = true) :
    a = b := by
  induction a generalizing b with
  | nil =>
    cases b with
    | nil => rfl
    | cons y b => cases hba
  | cons x a ih =>
    cases b with
    | nil => cases hab
    | cons y b =>
      simp only [codePointLE, Bool.or_eq_true, Bool.and_eq_true, decide_eq_true_eq, beq_iff_eq] at hab hba
      rcases hab with hxy | ⟨rfl, hab⟩
      · rcases hba with hyx | ⟨rfl, -⟩ <;> omega
      · rcases hba with hyx | ⟨-, hba⟩
        · omega
        · rw [ih hab hba]

theorem sortStrings_ordered (names : List String) :
    (sortStrings names).Pairwise fun a b => codePointLE a.toList b.toList = true := by
  refine List.pairwise_mergeSort ?_ ?_ names
  · exact fun a b c hab hbc => codePointLE_trans hab hbc
  · exact fun a b => codePointLE_total a.toList b.toList

/-- What is left out can be left out before or after the texts are put in order. -/
theorem sortStrings_filter (keep : String → Bool) (names : List String) :
    sortStrings (names.filter keep) = (sortStrings names).filter keep := by
  refine List.Perm.eq_of_pairwise (fun a b _ _ hab hba => ?_) (sortStrings_ordered _)
    ((sortStrings_ordered names).filter keep) ?_
  · exact String.toList_inj.1 (codePointLE_antisymm hab hba)
  · exact (List.mergeSort_perm _ _).trans ((List.mergeSort_perm names _).symm.filter keep)

end Text

/-- What is left out can be left out before or after what occurs again. -/
theorem dropRepeated_filter (keep : String → Bool) (names : List String) {seen seen' : List String}
    (h : ∀ x, keep x = true → seen.contains x = seen'.contains x) :
    dropRepeated seen (names.filter keep) = (dropRepeated seen' names).filter keep := by
  induction names generalizing seen seen' with
  | nil => rfl
  | cons x names ih =>
    cases hx : keep x with
    | true =>
      rw [List.filter_cons_of_pos hx, dropRepeated, dropRepeated, h x hx]
      split
      · exact ih h
      · rw [List.filter_cons_of_pos hx]
        refine congrArg (x :: ·) (ih fun y hy => ?_)
        rw [List.contains_cons, List.contains_cons, h y hy]
    | false =>
      rw [List.filter_cons_of_neg (by simp [hx]), dropRepeated]
      split
      · exact ih h
      · rw [List.filter_cons_of_neg (by simp [hx])]
        refine ih fun y hy => ?_
        have hne : (y == x) = false := by
          rw [beq_eq_false_iff_ne]
          rintro rfl
          rw [hx] at hy
          cases hy
        rw [List.contains_cons, hne, Bool.false_or, h y hy]

/-! ## Places -/

namespace Workspace

/-- The tree without the entries at some places. -/
def without (w : Workspace) (gone : List Place) : Workspace :=
  { w with entries := w.entries.filter fun e => !gone.contains e.1 }

/-- Whether a path leads to one of some places. -/
def reaches (w : Workspace) (gone : List Place) (path : String) : Bool :=
  match w.locate path with
  | .ok p => gone.contains p
  | .error _ => false

/-- Places where files are. -/
def AreFiles (w : Workspace) (gone : List Place) : Prop := ∀ q ∈ gone, ∃ bytes, w.entryAt q = some (.file bytes)

variable {w : Workspace} {gone : List Place} {path : String} {p : Place}

theorem reaches_iff : w.reaches gone path = true ↔ ∃ q ∈ gone, w.locate path = .ok q := by
  unfold reaches
  cases w.locate path with
  | error fault => simp
  | ok p => simp

theorem AreFiles.not_mem (hgone : w.AreFiles gone) (hp : w.entryAt p = some .directory) : p ∉ gone := by
  intro hmem
  obtain ⟨bytes, hbytes⟩ := hgone p hmem
  rw [hp] at hbytes
  cases hbytes

theorem entryAt_without (hgone : w.AreFiles gone) (p : Place) :
    (w.without gone).entryAt p = if p ∈ gone then none else w.entryAt p := by
  by_cases hp : p = []
  · subst hp
    rw [if_neg (hgone.not_mem entryAt_nil)]
    rfl
  have hne : p.isEmpty = false := by simpa using hp
  unfold entryAt without
  simp only [hne, Bool.false_eq_true, if_false, List.find?_filter]
  by_cases hmem : p ∈ gone
  · rw [if_pos hmem, Option.map_eq_none_iff, List.find?_eq_none]
    intro x _
    by_cases hx : x.1 = p
    · simp [hx, hmem]
    · simp [hx]
  · rw [if_neg hmem]
    congr 2
    funext x
    by_cases hx : x.1 = p
    · simp [hx, hmem]
    · simp [hx]

theorem directory_without (hgone : w.AreFiles gone) (p : Place) :
    (w.without gone).entryAt p = some .directory ↔ w.entryAt p = some .directory := by
  rw [entryAt_without hgone]
  split
  · rename_i hmem
    refine ⟨fun h => ?_, fun h => absurd hmem (hgone.not_mem h)⟩
    cases h
  · exact Iff.rfl

theorem sound_without (hw : w.Sound) (hgone : w.AreFiles gone) : (w.without gone).Sound where
  distinct := hw.distinct.sublist (List.filter_sublist.map _)
  proper e he := hw.proper e (List.mem_of_mem_filter he)
  parents e he := (directory_without hgone _).2 (hw.parents e (List.mem_of_mem_filter he))
  cwd := (directory_without hgone _).2 hw.cwd

/-- Files that are gone are not passed on the way. -/
theorem follow_without (hgone : w.AreFiles gone) {p q : Place} {cs : List String} :
    (w.without gone).follow p cs = .ok q ↔ w.follow p cs = .ok q := by
  induction cs generalizing p with
  | nil => exact Iff.rfl
  | cons c cs ih =>
    have hdirectory := directory_without hgone p
    by_cases hp : w.entryAt p = some .directory
    · rw [follow_cons hp, follow_cons (hdirectory.2 hp)]
      split
      · exact ih
      · split
        · exact ih
        · exact ih
    · exact ⟨fun h => absurd (hdirectory.1 (directory_of_follow h)) hp, fun h => absurd (directory_of_follow h) hp⟩

theorem locate_without (hgone : w.AreFiles gone) {q : Place} :
    (w.without gone).locate path = .ok q ↔ w.locate path = .ok q := by
  unfold locate
  split
  · exact Iff.rfl
  · exact follow_without hgone

theorem isDirectory_without (hgone : w.AreFiles gone) (path : String) :
    (w.without gone).isDirectory path = w.isDirectory path := by
  rw [Bool.eq_iff_iff, isDirectory_iff, isDirectory_iff]
  simp only [locate_without hgone, directory_without hgone]

theorem exists?_iff : w.exists? path = true ↔ ∃ p, w.locate path = .ok p ∧ (w.entryAt p).isSome = true := by
  unfold exists?
  cases w.locate path with
  | error fault => simp
  | ok p => simp

theorem exists?_without (hgone : w.AreFiles gone) (path : String) :
    (w.without gone).exists? path = (w.exists? path && !w.reaches gone path) := by
  rw [Bool.eq_iff_iff, Bool.and_eq_true, exists?_iff, exists?_iff]
  constructor
  · rintro ⟨p, hp, hsome⟩
    rw [locate_without hgone] at hp
    rw [entryAt_without hgone] at hsome
    split at hsome
    · cases hsome
    · rename_i hmem
      refine ⟨⟨p, hp, hsome⟩, ?_⟩
      simpa [reaches, hp] using hmem
  · rintro ⟨⟨p, hp, hsome⟩, hkept⟩
    refine ⟨p, (locate_without hgone).2 hp, ?_⟩
    rw [entryAt_without hgone, if_neg (by simpa [reaches, hp] using hkept)]
    exact hsome

theorem directoryPlace_iff {directory : String} : Glob.directoryPlace w directory = some p ↔
    w.locate (if directory.isEmpty then "." else directory) = .ok p ∧ w.entryAt p = some .directory := by
  unfold Glob.directoryPlace
  dsimp only
  cases w.locate (if directory.isEmpty then "." else directory) with
  | error fault => simp
  | ok q =>
    dsimp only
    split
    · rename_i hq
      rw [beq_iff_eq] at hq
      constructor
      · intro h
        obtain rfl := Option.some.inj h
        exact ⟨rfl, hq⟩
      · rintro ⟨h, -⟩
        rw [Except.ok.inj h]
    · rename_i hq
      rw [beq_iff_eq] at hq
      constructor
      · intro h
        cases h
      · rintro ⟨h, hp⟩
        obtain rfl := Except.ok.inj h
        exact absurd hp hq

theorem directoryPlace_without (hgone : w.AreFiles gone) (directory : String) :
    Glob.directoryPlace (w.without gone) directory = Glob.directoryPlace w directory := by
  refine Option.ext fun p => ?_
  rw [directoryPlace_iff, directoryPlace_iff, locate_without hgone, directory_without hgone]

/-! ## Names -/

theorem names_without (w : Workspace) (gone : List Place) (p : Place) :
    (w.without gone).names p = (w.names p).filter fun x => !gone.contains (p ++ [x.1]) := by
  unfold names without
  rw [List.filterMap_filter, List.filter_filterMap]
  refine List.filterMap_congr fun x _ => ?_
  cases hlast : x.1.getLast? with
  | none => simp
  | some name =>
    by_cases hp : x.1.dropLast = p
    · have hx : p ++ [name] = x.1 := hp ▸ List.dropLast_append_getLast? name hlast
      simp only [hp, beq_self_eq_true, if_true, Option.filter_some, hx]
    · simp [hp]

theorem below_without (w : Workspace) (gone : List Place) (p : Place) :
    (w.without gone).below p = (w.below p).filter fun x => !gone.contains (p ++ x.1) := by
  unfold below without
  rw [List.filterMap_filter, List.filter_filterMap]
  refine List.filterMap_congr fun x _ => ?_
  cases hcond : p.isPrefixOf x.1 && decide (p.length < x.1.length) with
  | true =>
    obtain ⟨t, ht⟩ := List.isPrefixOf_iff_prefix.1 (Bool.and_eq_true_iff.1 hcond).1
    have hx : p ++ x.1.drop p.length = x.1 := by rw [← ht, List.drop_left]
    simp only [if_true, Option.filter_some, hx]
  | false => simp

/-! ## Patterns -/

theorem join_empty (name : String) : PathText.join "" name = name := by
  unfold PathText.join
  split
  · rfl
  · simp

theorem under_eq_join (directory : String) {component : String} (h : ¬component.isEmpty = true) :
    Glob.under directory component = PathText.join directory component := by
  unfold Glob.under
  by_cases hdirectory : directory = ""
  · subst hdirectory
    rw [if_pos (by simp), join_empty]
  · rw [if_neg (by simpa using hdirectory), if_neg h]

/-- A path behind a directory of a pattern is followed from there. -/
theorem locate_under (hw : w.Sound) {directory : String} (hplace : Glob.directoryPlace w directory = some p)
    (hrelative : PathText.isAbsolute path = false) (hpath : path ≠ "") :
    w.locate (PathText.join directory path) = w.follow p (PathText.components path) := by
  obtain ⟨hlocate, -⟩ := directoryPlace_iff.1 hplace
  by_cases hdirectory : directory = ""
  · subst hdirectory
    have hcwd : w.locate "." = .ok w.cwd := by
      have hcomponents : PathText.components "." = ["."] := by decide
      have habs : PathText.isAbsolute "." = false := PathText.isAbsolute_of_not_mem (by decide)
      rw [locate, if_neg (by decide), habs, hcomponents, if_neg (by simp), follow_cons hw.cwd]
      rfl
    obtain rfl : w.cwd = p := Except.ok.inj (hcwd.symm.trans hlocate)
    rw [join_empty, locate, if_neg (by simpa using hpath), hrelative, if_neg (by simp)]
  · rw [if_neg (by simpa using hdirectory)] at hlocate
    exact locate_join_relative hlocate hrelative

/-- The path of something below a directory, in one piece. -/
theorem reaches_below (hw : w.Sound) {directory : String} (hplace : Glob.directoryPlace w directory = some p)
    {rest : Place} {e : Entry} (h : (rest, e) ∈ w.below p) :
    w.reaches gone (PathText.join directory (Text.joinStrings "/" rest)) = gone.contains (p ++ rest) := by
  obtain ⟨hproper, hdirectories, -⟩ := directories_below hw h
  have hcomponents := PathText.components_join (mem_below.1 h).1 fun c hc => (hproper c hc).slash
  have hfirst : "" ∉ rest := fun hmem => (hproper "" hmem).nonempty rfl
  have hrelative : PathText.isAbsolute (Text.joinStrings "/" rest) = false := by
    rw [Bool.eq_false_iff]
    intro habs
    obtain ⟨t, ht⟩ := PathText.isAbsolute_iff.1 habs
    have hslash : Text.joinStrings "/" rest = "/" ++ String.ofList t := String.toList_injective (by simpa using ht)
    rw [hslash, PathText.components_slash] at hcomponents
    exact hfirst (hcomponents ▸ List.mem_cons_self)
  have hne : Text.joinStrings "/" rest ≠ "" := by
    intro hempty
    rw [hempty, PathText.components_empty] at hcomponents
    exact hfirst (hcomponents ▸ List.mem_cons_self)
  unfold reaches
  rw [locate_under hw hplace hrelative hne, hcomponents, follow_place hproper hdirectories]

theorem mem_below_of_mem_names {name : String} {e : Entry} (h : (name, e) ∈ w.names p) : ([name], e) ∈ w.below p := by
  unfold names at h
  obtain ⟨x, hx, hsome⟩ := List.mem_filterMap.1 h
  split at hsome
  · rename_i found hlast
    split at hsome
    · rename_i hp
      obtain ⟨rfl, rfl⟩ := Prod.mk.inj (Option.some.inj hsome)
      rw [beq_iff_eq] at hp
      refine mem_below.2 ⟨by simp, ?_⟩
      rw [← hp, List.dropLast_append_getLast? found hlast]
      exact hx
    · cases hsome
  · cases hsome

theorem reaches_name (hw : w.Sound) {directory name : String} (hplace : Glob.directoryPlace w directory = some p)
    {e : Entry} (h : (name, e) ∈ w.names p) :
    w.reaches gone (PathText.join directory name) = gone.contains (p ++ [name]) := by
  have hbelow : w.reaches gone (PathText.join directory (Text.joinStrings "/" [name])) = gone.contains (p ++ [name]) :=
    reaches_below hw hplace (mem_below_of_mem_names h)
  have hone : Text.joinStrings "/" [name] = name := by simp [Text.joinStrings]
  rwa [hone] at hbelow

/-- A path that asks for a directory does not lead to a file. -/
theorem reaches_of_slash (hgone : w.AreFiles gone) (h : path = "" ∨ ∃ d, path = d ++ "/") :
    w.reaches gone path = false := by
  rw [Bool.eq_false_iff]
  intro hreaches
  obtain ⟨q, hq, hlocate⟩ := reaches_iff.1 hreaches
  rcases h with rfl | ⟨d, rfl⟩
  · cases hlocate
  · unfold locate at hlocate
    split at hlocate
    · cases hlocate
    · have hlast := PathText.components_append d ""
      rw [String.append_empty, PathText.components_empty] at hlast
      rw [hlast, follow_append] at hlocate
      cases hfollow : w.follow (if PathText.isAbsolute (d ++ "/") = true then [] else w.cwd)
          (PathText.components d) with
      | error fault => rw [hfollow] at hlocate; cases hlocate
      | ok q' =>
        rw [hfollow] at hlocate
        have hdirectory := directory_of_follow hlocate
        change w.follow q' [""] = .ok q at hlocate
        rw [follow_cons hdirectory] at hlocate
        obtain rfl : q' = q := by simpa [follow] using hlocate
        exact hgone.not_mem hdirectory hq

theorem reaches_join_empty (hgone : w.AreFiles gone) (directory : String) :
    w.reaches gone (PathText.join directory "") = false := by
  refine reaches_of_slash hgone ?_
  unfold PathText.join
  rw [if_neg (by decide)]
  split
  · rename_i h
    rw [String.append_empty]
    rcases Bool.or_eq_true_iff.1 h with h | h
    · exact .inl (by simpa using h)
    · exact .inr (PathText.endsWith_slash_iff.1 h)
  · exact .inr ⟨directory, String.append_empty⟩

theorem reaches_of_base (hgone : w.AreFiles gone) (h : PathText.base path = "") : w.reaches gone path = false := by
  refine reaches_of_slash hgone ?_
  have hbase : path.toList.reverse.takeWhile (· != '/') = [] := by
    simpa [PathText.base, PathText.baseOf] using h
  cases hlist : path.toList.reverse with
  | nil => exact .inl (by simpa using hlist)
  | cons c rest =>
    rw [hlist] at hbase
    have hc : c = '/' := by
      by_contra hne
      rw [List.takeWhile_cons_of_pos (by simpa using hne)] at hbase
      cases hbase
    refine .inr ⟨String.ofList rest.reverse, String.toList_injective ?_⟩
    have hchars := congrArg List.reverse hlist
    rw [List.reverse_reverse, List.reverse_cons, hc] at hchars
    rw [hchars, String.toList_append, String.toList_ofList]
    rfl

/-! ### The names of a component -/

theorem namesIn_without (hw : w.Sound) (hgone : w.AreFiles gone) (directory : String) (onlyDirectories : Bool) :
    Glob.namesIn (w.without gone) directory onlyDirectories =
      (Glob.namesIn w directory onlyDirectories).filter fun name =>
        !w.reaches gone (PathText.join directory name) := by
  unfold Glob.namesIn
  rw [directoryPlace_without hgone]
  cases hplace : Glob.directoryPlace w directory with
  | none => rfl
  | some p =>
    dsimp only
    rw [names_without, List.filterMap_filter, List.filter_filterMap]
    refine List.filterMap_congr fun x hx => ?_
    rw [← reaches_name hw hplace hx]
    cases !onlyDirectories || x.2 == .directory with
    | true => simp only [if_true, Option.filter_some]
    | false => simp

theorem everythingBelow_without (hw : w.Sound) (hgone : w.AreFiles gone) (directory : String) (onlyDirectories : Bool) :
    Glob.everythingBelow (w.without gone) directory onlyDirectories =
      (Glob.everythingBelow w directory onlyDirectories).filter fun name =>
        !w.reaches gone (PathText.join directory name) := by
  unfold Glob.everythingBelow
  rw [directoryPlace_without hgone]
  cases hplace : Glob.directoryPlace w directory with
  | none => rfl
  | some p =>
    dsimp only
    rw [List.filter_cons_of_pos (by simp [reaches_join_empty hgone]), below_without, List.filterMap_filter,
      List.filter_filterMap]
    refine congrArg ("" :: ·) (List.filterMap_congr fun x hx => ?_)
    rw [← reaches_below hw hplace hx]
    cases x.1.any Glob.isHidden || (onlyDirectories && x.2 != .directory) with
    | true => simp
    | false => simp only [Bool.false_eq_true, if_false, Option.filter_some]

theorem lastComponent_without (hw : w.Sound) (hgone : w.AreFiles gone) (directory component : String)
    (onlyDirectories : Bool) :
    Glob.lastComponent (w.without gone) directory component onlyDirectories =
      (Glob.lastComponent w directory component onlyDirectories).filter fun name =>
        !w.reaches gone (PathText.join directory name) := by
  unfold Glob.lastComponent
  split
  · exact everythingBelow_without hw hgone directory onlyDirectories
  · split
    · unfold Glob.matchingNames
      rw [namesIn_without hw hgone, List.filter_filter, List.filter_filter]
      refine List.filter_congr fun name _ => ?_
      rw [Bool.and_comm]
    · unfold Glob.exactName
      split
      · rename_i hempty
        obtain rfl : component = "" := by simpa using hempty
        rw [isDirectory_without hgone]
        split
        · rw [List.filter_cons_of_pos (by simp [reaches_join_empty hgone]), List.filter_nil]
        · rfl
      · rename_i hempty
        rw [under_eq_join directory hempty, exists?_without hgone]
        cases hreaches : w.reaches gone (PathText.join directory component) with
        | true => cases w.exists? (PathText.join directory component) <;> simp [hreaches]
        | false => cases w.exists? (PathText.join directory component) <;> simp [hreaches]

/-- There are no names in a file. -/
theorem lastComponent_of_reaches (hgone : w.AreFiles gone) {directory component : String}
    (h : w.reaches gone directory = true) (hcomponent : '/' ∉ component.toList) (onlyDirectories : Bool) :
    Glob.lastComponent w directory component onlyDirectories = [] := by
  obtain ⟨q, hq, hlocate⟩ := reaches_iff.1 h
  obtain ⟨bytes, hbytes⟩ := hgone q hq
  have hempty : directory.isEmpty = false := by
    unfold locate at hlocate
    split at hlocate
    · cases hlocate
    · rename_i hne
      exact Bool.eq_false_iff.2 hne
  have hfile : ∀ p, w.locate directory = .ok p → w.entryAt p ≠ some .directory := by
    intro p hp hdirectory
    obtain rfl := Except.ok.inj (hlocate.symm.trans hp)
    rw [hbytes] at hdirectory
    cases hdirectory
  have hplace : Glob.directoryPlace w directory = none := by
    rw [Option.eq_none_iff_forall_ne_some]
    intro p hp
    rw [directoryPlace_iff, hempty, if_neg (by simp)] at hp
    exact hfile p hp.1 hp.2
  have hdirectory : w.isDirectory directory = false := by
    rw [Bool.eq_false_iff, Ne, isDirectory_iff]
    rintro ⟨p, hp⟩
    exact hfile p hp.1 hp.2
  have hexists : w.exists? (PathText.join directory component) = false := by
    rw [Bool.eq_false_iff, Ne, exists?_iff]
    rintro ⟨p, hp, -⟩
    obtain ⟨c, cs, hcs⟩ : ∃ c cs, PathText.components component = c :: cs :=
      List.exists_cons_of_ne_nil (by simpa [PathText.components] using Text.splitAt_ne_nil '/' component.toList)
    rw [locate_join_relative hlocate (PathText.isAbsolute_of_not_mem hcomponent), hcs] at hp
    exact hfile q hlocate (directory_of_follow hp)
  unfold Glob.lastComponent
  split
  · rw [Glob.everythingBelow, hplace]
  · split
    · rw [Glob.matchingNames, Glob.namesIn, hplace]
      rfl
    · unfold Glob.exactName
      split
      · rw [hdirectory]
        rfl
      · rename_i hne
        rw [under_eq_join directory hne, hexists]
        rfl

/-! ### Whole patterns -/

theorem slash_not_mem_base (path : String) : '/' ∉ (PathText.base path).toList := by
  rw [PathText.base, String.toList_ofList, PathText.baseOf, List.mem_reverse]
  intro hmem
  have hall := List.all_eq_true.1 (List.all_takeWhile (l := path.toList.reverse) (p := (· != '/'))) _ hmem
  simp at hall

/-- What gives nothing can be left out. -/
theorem flatMap_filter_of_nil {α β : Type} {f : α → List β} {keep : α → Bool} {xs : List α}
    (h : ∀ x ∈ xs, keep x = false → f x = []) : (xs.filter keep).flatMap f = xs.flatMap f := by
  induction xs with
  | nil => rfl
  | cons x xs ih =>
    obtain ⟨hx, hxs⟩ := List.forall_mem_cons.1 h
    cases hkeep : keep x with
    | true => rw [List.filter_cons_of_pos hkeep, List.flatMap_cons, List.flatMap_cons, ih hxs]
    | false =>
      rw [List.filter_cons_of_neg (by simp [hkeep]), List.flatMap_cons, hx hkeep, List.nil_append, ih hxs]

/-- **What a pattern stands for**, less what is gone. -/
theorem expandFrom_without (hw : w.Sound) (hgone : w.AreFiles gone) (fuel : Nat) (pattern : String)
    (onlyDirectories : Bool) :
    Glob.expandFrom (w.without gone) fuel pattern onlyDirectories =
      (Glob.expandFrom w fuel pattern onlyDirectories).filter fun path => !w.reaches gone path := by
  induction fuel generalizing pattern onlyDirectories with
  | zero => rfl
  | succ fuel ih =>
    unfold Glob.expandFrom
    dsimp only
    split
    · split
      · rename_i hbase
        rw [isDirectory_without hgone]
        split
        · rw [List.filter_cons_of_pos (by simp [reaches_of_base hgone (by simpa using hbase)]), List.filter_nil]
        · rfl
      · rw [exists?_without hgone]
        cases hreaches : w.reaches gone pattern with
        | true => cases w.exists? pattern <;> simp [hreaches]
        | false => cases w.exists? pattern <;> simp [hreaches]
    · split
      · rw [lastComponent_without hw hgone]
        simp only [join_empty]
      · have hnames : ∀ d, (Glob.lastComponent (w.without gone) d (PathText.base pattern) onlyDirectories).map
            (fun name => PathText.join d name) =
            ((Glob.lastComponent w d (PathText.base pattern) onlyDirectories).map
              (fun name => PathText.join d name)).filter fun path => !w.reaches gone path := by
          intro d
          rw [lastComponent_without hw hgone, List.filter_map]
          rfl
        rw [List.filter_flatMap]
        simp only [hnames]
        split
        · rw [ih]
          refine flatMap_filter_of_nil fun d _ hd => ?_
          rw [lastComponent_of_reaches hgone (by simpa using hd) (slash_not_mem_base pattern)]
          rfl
        · rfl

/-! ### The root of a pattern -/

/-- The empty path stands first, where it stands at all. -/
def RootFirst (paths : List String) : Prop := "" ∈ paths → paths.head? = some ""

theorem rootFirst_nil : RootFirst [] := fun h => nomatch h

theorem rootFirst_singleton (path : String) : RootFirst [path] := by
  intro h
  rw [← List.mem_singleton.1 h]
  rfl

theorem rootFirst_lastComponent (hw : w.Sound) (directory component : String) (onlyDirectories : Bool) :
    RootFirst (Glob.lastComponent w directory component onlyDirectories) := by
  unfold Glob.lastComponent
  split
  · unfold Glob.everythingBelow
    split
    · exact rootFirst_nil
    · exact fun _ => rfl
  · split
    · -- The names in a directory are proper.
      intro h
      have hmem := (List.mem_filter.1 h).1
      unfold Glob.namesIn at hmem
      split at hmem
      · cases hmem
      · obtain ⟨x, hx, hsome⟩ := List.mem_filterMap.1 hmem
        split at hsome
        · obtain ⟨hproper, -⟩ := directories_below hw (mem_below_of_mem_names hx)
          exact absurd (Option.some.inj hsome) (hproper x.1 (by simp)).nonempty
        · cases hsome
    · unfold Glob.exactName
      split
      · split
        · exact rootFirst_singleton component
        · exact rootFirst_nil
      · split
        · exact rootFirst_singleton component
        · exact rootFirst_nil

theorem join_eq_empty {directory name : String} (h : PathText.join directory name = "") :
    directory = "" ∧ name = "" := by
  unfold PathText.join at h
  split at h
  · rename_i habs
    subst h
    exact absurd habs (by decide)
  · split at h
    · exact String.append_eq_empty_iff.1 h
    · exact absurd (String.append_eq_empty_iff.1 (String.append_eq_empty_iff.1 h).1).2 (by decide)

theorem rootFirst_expandFrom (hw : w.Sound) (fuel : Nat) (pattern : String) (onlyDirectories : Bool) :
    RootFirst (Glob.expandFrom w fuel pattern onlyDirectories) := by
  induction fuel generalizing pattern onlyDirectories with
  | zero => exact rootFirst_nil
  | succ fuel ih =>
    unfold Glob.expandFrom
    dsimp only
    split
    · split
      · split
        · exact rootFirst_singleton pattern
        · exact rootFirst_nil
      · split
        · exact rootFirst_singleton pattern
        · exact rootFirst_nil
    · split
      · exact rootFirst_lastComponent hw _ _ _
      · generalize hdirectories : (if (PathText.parent pattern != pattern &&
            Glob.hasMagic (PathText.parent pattern)) = true then Glob.expandFrom w fuel (PathText.parent pattern) true
          else [PathText.parent pattern]) = directories
        have hroot : RootFirst directories := by
          rw [← hdirectories]
          split
          · exact ih _ _
          · exact rootFirst_singleton _
        intro h
        obtain ⟨d, hd, hmem⟩ := List.mem_flatMap.1 h
        obtain ⟨name, hname, hjoin⟩ := List.mem_map.1 hmem
        obtain ⟨rfl, rfl⟩ := join_eq_empty hjoin
        obtain ⟨ds, rfl⟩ := List.head?_eq_some_iff.1 (hroot hd)
        obtain ⟨names, hnames⟩ := List.head?_eq_some_iff.1 (rootFirst_lastComponent hw _ _ _ hname)
        rw [List.flatMap_cons, hnames, List.map_cons, join_empty]
        rfl

theorem expand_eq (hw : w.Sound) (pattern : String) :
    Glob.expand w pattern = if pattern.isEmpty || pattern.startsWith "**" then
      (Glob.expandFrom w (pattern.length + 1) pattern false).erase "" else
      Glob.expandFrom w (pattern.length + 1) pattern false := by
  have hroot := rootFirst_expandFrom hw (pattern.length + 1) pattern false
  unfold Glob.expand
  dsimp only
  revert hroot
  generalize Glob.expandFrom w (pattern.length + 1) pattern false = found
  intro hroot
  split
  · split
    · exact (List.erase_cons_head "" _).symm
    · rename_i hne
      refine (List.erase_of_not_mem fun hmem => ?_).symm
      obtain ⟨rest, hrest⟩ := List.head?_eq_some_iff.1 (hroot hmem)
      exact hne rest hrest
  · rfl

theorem expand_without (hw : w.Sound) (hgone : w.AreFiles gone) (pattern : String) :
    Glob.expand (w.without gone) pattern = (Glob.expand w pattern).filter fun path => !w.reaches gone path := by
  rw [expand_eq hw, expand_eq (sound_without hw hgone), expandFrom_without hw hgone, List.erase_filter]
  split <;> rfl

/-- **The type files**, less those that are gone. -/
theorem typeFiles_without (hw : w.Sound) (hgone : w.AreFiles gone) (patterns : List String) :
    typeFiles (w.without gone) patterns = (typeFiles w patterns).filter fun path => !w.reaches gone path := by
  have hsorted : Glob.expandSorted (w.without gone) = fun pattern =>
      (Glob.expandSorted w pattern).filter fun path => !w.reaches gone path := by
    funext pattern
    rw [Glob.expandSorted, expand_without hw hgone, Text.sortStrings_filter]
    rfl
  unfold typeFiles
  rw [← dropRepeated_filter _ _ fun _ _ => rfl, List.filter_flatMap, hsorted]

/-! ## Handler files -/

/-- **The handler files**, less those that are gone. -/
theorem handlerFiles_without (hw : w.Sound) (hgone : w.AreFiles gone) {dir pattern : String} {files : List String}
    (h : Discovery.handlerFiles w dir pattern = .ok files) :
    Discovery.handlerFiles (w.without gone) dir pattern = .ok (files.filter fun f => !w.reaches gone f) := by
  obtain ⟨place, hplace, hdirectory, rfl⟩ := handlerFiles_ok h
  unfold Discovery.handlerFiles
  rw [(locate_without hgone).2 hplace]
  dsimp only
  rw [(directory_without hgone _).2 hdirectory, if_pos (by simp), ← Text.sortStrings_filter, below_without,
    List.filter_map, List.filter_filter, List.filter_filter]
  refine congrArg (fun fs => Except.ok (Text.sortStrings fs)) (congrArg _ (List.filter_congr fun x hx => ?_))
  rw [Bool.and_comm, Function.comp_apply, reaches, (locate_below hw hplace hx).1]

end Workspace

end RouteDoc
