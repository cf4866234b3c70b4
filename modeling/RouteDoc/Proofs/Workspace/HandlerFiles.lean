/-
The handler files of a tree.

A path that discovery writes down leads to the file it was made for
(`locate_pathBelow`), so handler files are files, each at a place of its own
(`handlerFiles_files`). Which files they are is a matter of the tree alone, not
of what is in them (`Alike.handlerFiles`).
-/
import Mathlib.Data.List.Pairwise
import RouteDoc.Discovery
import RouteDoc.Proofs.Workspace.Writing

namespace RouteDoc

namespace Workspace

variable {w w' : Workspace}

/-! ## Paths below a directory -/

theorem follow_append (w : Workspace) (p : Place) (cs cs' : List String) :
    w.follow p (cs ++ cs') = (w.follow p cs).bind fun q => w.follow q cs' := by
  induction cs generalizing p with
  | nil => rfl
  | cons c cs ih =>
    rw [List.cons_append, follow, follow]
    split
    · rfl
    · rfl
    · simp only [ih]
      split
      · rfl
      · split <;> rfl

theorem follow_name {p : Place} {c : String} (hp : w.entryAt p = some .directory) (hc : ProperName c) :
    w.follow p [c] = .ok (p ++ [c]) := by
  rw [follow_cons hp]
  simp [hc.nonempty, hc.dot, hc.dots, follow]

/-- A relative path behind another one is followed from where that one leads. -/
theorem locate_join_relative {dir path : String} {p : Place} (hdir : w.locate dir = .ok p)
    (hrelative : PathText.isAbsolute path = false) :
    w.locate (PathText.join dir path) = w.follow p (PathText.components path) := by
  unfold locate at hdir
  split at hdir
  · cases hdir
  rename_i hempty
  obtain ⟨x, rest, hchars⟩ : ∃ x rest, dir.toList = x :: rest := by
    cases hlist : dir.toList with
    | nil => exact absurd (by simpa using hlist) (by simpa using hempty)
    | cons x rest => exact ⟨x, rest, rfl⟩
  have hstart : ∀ t, PathText.isAbsolute (dir ++ t) = PathText.isAbsolute dir := by
    intro t
    rw [Bool.eq_iff_iff, PathText.isAbsolute_iff, PathText.isAbsolute_iff, String.toList_append, hchars]
    simp
  have hsome : ∀ t, (dir ++ t).isEmpty = false := by
    intro t
    simpa using fun h => absurd h (by simpa using hempty)
  by_cases hends : dir.endsWith "/" = true
  · -- The directory ends in a slash: its last component is empty, and the path takes its place.
    obtain ⟨d, rfl⟩ := PathText.endsWith_slash_iff.1 hends
    have hjoin : PathText.join (d ++ "/") path = d ++ "/" ++ path := by
      rw [PathText.join, hrelative, hends]
      simp
    have hlast := PathText.components_append d ""
    rw [String.append_empty, PathText.components_empty] at hlast
    rw [hlast, follow_append] at hdir
    cases hfollow : w.follow (if PathText.isAbsolute (d ++ "/") = true then [] else w.cwd) (PathText.components d) with
    | error fault => rw [hfollow] at hdir; cases hdir
    | ok p' =>
      rw [hfollow] at hdir
      have hp' := directory_of_follow hdir
      change w.follow p' [""] = .ok p at hdir
      rw [follow_cons hp'] at hdir
      obtain rfl : p' = p := by simpa [follow] using hdir
      rw [hjoin, locate, hsome, hstart, PathText.components_append, follow_append, hfollow]
      rfl
  · have hjoin : PathText.join dir path = dir ++ "/" ++ path := by
      rw [PathText.join, hrelative]
      simp [hends, hempty]
    have habs : PathText.isAbsolute (dir ++ "/" ++ path) = PathText.isAbsolute dir := by
      rw [String.append_assoc, hstart]
    have hnonempty : (dir ++ "/" ++ path).isEmpty = false := by
      rw [String.append_assoc, hsome]
    rw [hjoin, locate, hnonempty, habs, PathText.components_append, follow_append, hdir]
    rfl

/-- A name below a directory leads there. -/
theorem locate_join {dir c : String} {p : Place} (hdir : w.locate dir = .ok p) (hp : w.entryAt p = some .directory)
    (hc : ProperName c) : w.locate (PathText.join dir c) = .ok (p ++ [c]) := by
  have hcomponents : PathText.components c = [c] := by
    rw [PathText.components, Text.splitAt_of_not_mem hc.slash]
    simp
  rw [locate_join_relative hdir (PathText.isAbsolute_of_not_mem hc.slash), hcomponents]
  exact follow_name hp hc

/-- A path that is written down for something below a directory leads there. -/
theorem locate_pathBelow {dir : String} {p rest : Place} (hdir : w.locate dir = .ok p)
    (hrest : ∀ c ∈ rest, ProperName c) (hdirs : ∀ n < rest.length, w.entryAt (p ++ rest.take n) = some .directory) :
    w.locate (Discovery.pathBelow dir rest) = .ok (p ++ rest) := by
  unfold Discovery.pathBelow
  induction rest generalizing dir p with
  | nil => simpa using hdir
  | cons c rest ih =>
    obtain ⟨hc, hrest⟩ := List.forall_mem_cons.1 hrest
    have hp := hdirs 0 (by simp)
    rw [List.take_zero, List.append_nil] at hp
    have hnext := ih (locate_join hdir hp hc) hrest fun n hn => by
      have hnext := hdirs (n + 1) (by simpa using hn)
      simpa using hnext
    simpa using hnext

/-! ## Handler files -/

theorem mem_below {p rest : Place} {e : Entry} :
    (rest, e) ∈ w.below p ↔ rest ≠ [] ∧ (p ++ rest, e) ∈ w.entries := by
  unfold below
  rw [List.mem_filterMap]
  constructor
  · rintro ⟨x, hx, hsome⟩
    split at hsome
    · rename_i hcond
      simp only [Bool.and_eq_true, List.isPrefixOf_iff_prefix, decide_eq_true_eq] at hcond
      obtain ⟨⟨t, ht⟩, hlen⟩ := hcond
      obtain ⟨hdrop, rfl⟩ := Prod.mk.inj (Option.some.inj hsome)
      rw [← ht, List.drop_left] at hdrop
      subst hdrop
      refine ⟨?_, by rw [ht]; exact hx⟩
      rintro rfl
      rw [← ht] at hlen
      simp at hlen
    · cases hsome
  · rintro ⟨hne, hmem⟩
    refine ⟨_, hmem, ?_⟩
    have hpos := List.length_pos_iff.2 hne
    simp [hpos]

theorem below_nodup (hw : w.Sound) (p : Place) : (w.below p).Pairwise fun x y => x.1 ≠ y.1 := by
  have hdistinct := hw.distinct
  rw [List.Nodup, List.pairwise_map] at hdistinct
  unfold below
  rw [List.pairwise_filterMap]
  refine hdistinct.imp ?_
  intro x y hxy x' hx' y' hy' heq
  split at hx'
  · rename_i hx
    split at hy'
    · rename_i hy
      simp only [Bool.and_eq_true, List.isPrefixOf_iff_prefix] at hx hy
      obtain ⟨t, ht⟩ := hx.1
      obtain ⟨u, hu⟩ := hy.1
      rw [← Option.some.inj hx', ← Option.some.inj hy', ← ht, ← hu, List.drop_left, List.drop_left] at heq
      dsimp only at heq
      exact hxy (by rw [← ht, ← hu, heq])
    · cases hy'
  · cases hx'

variable {dir pattern : String} {files : List String}

theorem handlerFiles_ok (h : Discovery.handlerFiles w dir pattern = .ok files) :
    ∃ place, w.locate dir = .ok place ∧ w.entryAt place = some .directory ∧
      files = Text.sortStrings (((w.below place).filter (Discovery.matchesFile pattern)).map fun x =>
        Discovery.pathBelow dir x.1) := by
  unfold Discovery.handlerFiles at h
  split at h
  · cases h
  · rename_i place hplace
    split at h
    · rename_i hdirectory
      exact ⟨place, hplace, by simpa using hdirectory, (Except.ok.inj h).symm⟩
    · cases h

/-- The handler files of a directory where they lie in order. -/
theorem handlerFiles_eq {place : Place} (hplace : w.locate dir = .ok place)
    (hdirectory : w.entryAt place = some .directory)
    (hfiles : ((w.below place).filter (Discovery.matchesFile pattern)).map (fun x =>
      Discovery.pathBelow dir x.1) = files)
    (hsorted : files.Pairwise fun a b => Text.codePointLE a.toList b.toList = true) :
    Discovery.handlerFiles w dir pattern = .ok files := by
  have hsort : Text.sortStrings files = files := List.mergeSort_of_pairwise hsorted
  simp only [Discovery.handlerFiles, hplace, hdirectory, hfiles, hsort, beq_self_eq_true, if_true]

theorem isDirectory_iff {path : String} :
    w.isDirectory path = true ↔ ∃ p, w.locate path = .ok p ∧ w.entryAt p = some .directory := by
  unfold isDirectory
  cases w.locate path with
  | error fault => simp
  | ok p => simp

theorem handlerFiles_error_iff {failure : Failure} :
    Discovery.handlerFiles w dir pattern = .error failure ↔
      w.isDirectory dir = false ∧ failure = .noDirectory dir := by
  unfold Discovery.handlerFiles isDirectory
  cases w.locate dir with
  | error fault => simpa using eq_comm
  | ok place =>
    dsimp only
    cases w.entryAt place == some .directory with
    | true => simp
    | false => simpa using eq_comm

/-- Whether a file below a directory has a name that a pattern stands for. -/
def HasMatch (w : Workspace) (dir pattern : String) : Prop :=
  ∃ place rest name bytes, w.locate dir = .ok place ∧ w.entryAt (place ++ (rest ++ [name])) = some (.file bytes) ∧
    Pattern.accepts pattern name = true

theorem matchesFile_iff {x : Place × Entry} : Discovery.matchesFile pattern x = true ↔
    ∃ rest name bytes, x = (rest ++ [name], .file bytes) ∧ Pattern.accepts pattern name = true := by
  constructor
  · intro h
    unfold Discovery.matchesFile at h
    split at h
    · rename_i bytes name hentry hlast
      refine ⟨x.1.dropLast, name, bytes, ?_, h⟩
      rw [List.dropLast_append_getLast? name hlast]
      exact Prod.ext rfl hentry
    · cases h
  · rintro ⟨rest, name, bytes, rfl, haccepts⟩
    simpa [Discovery.matchesFile] using haccepts

theorem handlerFiles_ne_nil_iff (hw : w.Sound) (h : Discovery.handlerFiles w dir pattern = .ok files) :
    files ≠ [] ↔ w.HasMatch dir pattern := by
  obtain ⟨place, hplace, -, rfl⟩ := handlerFiles_ok h
  have hempty : ∀ names : List String, Text.sortStrings names = [] ↔ names = [] := by
    intro names
    rw [← List.length_eq_zero_iff, ← List.length_eq_zero_iff, Text.sortStrings, List.length_mergeSort]
  rw [Ne, hempty, List.map_eq_nil_iff, List.filter_eq_nil_iff]
  push Not
  constructor
  · rintro ⟨x, hx, hmatches⟩
    obtain ⟨rest, name, bytes, rfl, haccepts⟩ := matchesFile_iff.1 hmatches
    exact ⟨place, rest, name, bytes, hplace, hw.entryAt_of_mem (mem_below.1 hx).2, haccepts⟩
  · rintro ⟨place', rest, name, bytes, hplace', hentry, haccepts⟩
    obtain rfl := Except.ok.inj (hplace.symm.trans hplace')
    refine ⟨(rest ++ [name], .file bytes), mem_below.2 ⟨by simp, mem_of_entryAt hentry (by simp)⟩, ?_⟩
    exact matchesFile_iff.2 ⟨rest, name, bytes, rfl, haccepts⟩

theorem handlerFiles_nil_iff (hw : w.Sound) :
    Discovery.handlerFiles w dir pattern = .ok [] ↔ w.isDirectory dir = true ∧ ¬w.HasMatch dir pattern := by
  constructor
  · intro h
    obtain ⟨place, hplace, hdirectory, -⟩ := handlerFiles_ok h
    refine ⟨isDirectory_iff.2 ⟨place, hplace, hdirectory⟩, fun hmatch => ?_⟩
    exact (handlerFiles_ne_nil_iff hw h).2 hmatch rfl
  · rintro ⟨hdirectory, hnone⟩
    cases h : Discovery.handlerFiles w dir pattern with
    | error failure =>
      rw [(handlerFiles_error_iff.1 h).1] at hdirectory
      cases hdirectory
    | ok files =>
      rw [not_ne_iff.1 (mt (handlerFiles_ne_nil_iff hw h).1 hnone)]

/-- On the way to something below a place there are directories with proper names. -/
theorem directories_below (hw : w.Sound) {place rest : Place} {e : Entry} (h : (rest, e) ∈ w.below place) :
    (∀ c ∈ rest, ProperName c) ∧ (∀ n < rest.length, w.entryAt (place ++ rest.take n) = some .directory) ∧
      w.entryAt (place ++ rest) = some e := by
  obtain ⟨hne, hmem⟩ := mem_below.1 h
  have hentry := hw.entryAt_of_mem hmem
  have hproper := (hw.proper _ hmem).2
  refine ⟨fun c hc => hproper c (List.mem_append_right _ hc), fun n hn => ?_, hentry⟩
  have hparent := hw.parent (by rw [hentry]; rfl) (List.append_ne_nil_of_right_ne_nil place hne)
  have htake := hw.take_directory hparent (place.length + n)
  have hlen : (place ++ rest).length = place.length + rest.length := List.length_append
  rwa [List.dropLast_eq_take, List.take_take, Nat.min_eq_left (by omega), List.take_length_add_append] at htake

/-- What is below a directory is found by the path that is written down for it. -/
theorem locate_below (hw : w.Sound) {place rest : Place} {e : Entry} (hdir : w.locate dir = .ok place)
    (h : (rest, e) ∈ w.below place) :
    w.locate (Discovery.pathBelow dir rest) = .ok (place ++ rest) ∧ w.entryAt (place ++ rest) = some e := by
  obtain ⟨hproper, hdirectories, hentry⟩ := directories_below hw h
  exact ⟨locate_pathBelow hdir hproper hdirectories, hentry⟩

/-- **Handler files are files**, each at a place of its own. -/
theorem handlerFiles_files (hw : w.Sound) (h : Discovery.handlerFiles w dir pattern = .ok files) :
    (∀ f ∈ files, ∃ q bytes, w.locate f = .ok q ∧ w.entryAt q = some (.file bytes)) ∧
      files.Pairwise fun f f' => w.locate f ≠ w.locate f' := by
  obtain ⟨place, hplace, -, rfl⟩ := handlerFiles_ok h
  have hperm := List.mergeSort_perm (((w.below place).filter (Discovery.matchesFile pattern)).map fun x =>
    Discovery.pathBelow dir x.1) fun a b => Text.codePointLE a.toList b.toList
  constructor
  · intro f hf
    obtain ⟨⟨rest, e⟩, hx, rfl⟩ := List.mem_map.1 (hperm.mem_iff.1 hf)
    obtain ⟨hbelow, hfile⟩ := List.mem_filter.1 hx
    obtain ⟨hlocate, hentry⟩ := locate_below hw hplace hbelow
    obtain ⟨_, _, bytes, heq, -⟩ := matchesFile_iff.1 hfile
    obtain rfl : e = .file bytes := (Prod.mk.inj heq).2
    exact ⟨_, bytes, hlocate, hentry⟩
  · rw [Text.sortStrings, hperm.pairwise_iff fun h => Ne.symm h, List.pairwise_map]
    have hdistinct := (below_nodup hw place).sublist (List.filter_sublist (p := Discovery.matchesFile pattern))
    refine hdistinct.imp_of_mem fun {x y} hx hy hxy heq => ?_
    rw [(locate_below hw hplace (List.mem_of_mem_filter hx)).1,
      (locate_below hw hplace (List.mem_of_mem_filter hy)).1] at heq
    exact hxy (List.append_cancel_left (Except.ok.inj heq))

/-- The same things are below a directory. -/
theorem Alike.below (h : w.Alike w') (p : Place) :
    List.Forall₂ (fun x y => x.1 = y.1 ∧ (x.2 = .directory ↔ y.2 = .directory)) (w.below p) (w'.below p) := by
  refine List.rel_filterMap (fun x y hxy => ?_) h.entries
  rw [← hxy.1]
  split
  · exact .some ⟨rfl, hxy.2⟩
  · exact .none

theorem matchesFile_eq {x y : Place × Entry} (hkey : x.1 = y.1) (hentry : x.2 = .directory ↔ y.2 = .directory) :
    Discovery.matchesFile pattern x = Discovery.matchesFile pattern y := by
  obtain ⟨p, e⟩ := x
  obtain ⟨p', e'⟩ := y
  obtain rfl : p = p' := hkey
  cases e with
  | directory =>
    obtain rfl : e' = .directory := hentry.1 rfl
    rfl
  | file bytes =>
    cases e' with
    | directory => cases hentry.2 rfl
    | file bytes' =>
      unfold Discovery.matchesFile
      dsimp only
      cases p.getLast? <;> rfl

/-- Which files are handler files does not depend on what is in them. -/
theorem Alike.handlerFiles (h : w.Alike w') (dir pattern : String) :
    Discovery.handlerFiles w dir pattern = Discovery.handlerFiles w' dir pattern := by
  unfold Discovery.handlerFiles
  rw [← h.locate dir]
  cases w.locate dir with
  | error fault => rfl
  | ok place =>
    have hdirectory : (w.entryAt place == some .directory) = (w'.entryAt place == some .directory) := by
      rw [Bool.eq_iff_iff, beq_iff_eq, beq_iff_eq]
      exact h.directory_iff place
    have hfiles : ((w.below place).filter (Discovery.matchesFile pattern)).map (fun x => Discovery.pathBelow dir x.1) =
        ((w'.below place).filter (Discovery.matchesFile pattern)).map fun x => Discovery.pathBelow dir x.1 := by
      have hbelow := h.below place
      revert hbelow
      generalize w.below place = xs
      generalize w'.below place = ys
      intro hbelow
      induction hbelow with
      | nil => rfl
      | cons hxy _ ih =>
        rw [List.filter_cons, List.filter_cons, matchesFile_eq hxy.1 hxy.2]
        split
        · rw [List.map_cons, List.map_cons, hxy.1, ih]
        · exact ih
    simp only [hdirectory, hfiles]

end Workspace

end RouteDoc
