/-
The paths of a pattern.

A pattern asks which names there are and which of them are directories, never
for the bytes of a file. So two trees of one shape have the same paths for every
pattern (`Alike.expandFrom`), and the same type files (`Alike.typeFiles`).
-/
import RouteDoc.Proofs.Workspace.HandlerFiles
import RouteDoc.RequestType.Lookup

namespace RouteDoc.Workspace.Alike

variable {w w' : Workspace}

theorem isDirectory (h : w.Alike w') (path : String) : w.isDirectory path = w'.isDirectory path := by
  unfold Workspace.isDirectory
  rw [← h.locate path]
  cases w.locate path with
  | error fault => rfl
  | ok p =>
    rw [Bool.eq_iff_iff, beq_iff_eq, beq_iff_eq]
    exact h.directory_iff p

theorem exists? (h : w.Alike w') (path : String) : w.exists? path = w'.exists? path := by
  unfold Workspace.exists?
  rw [← h.locate path]
  cases w.locate path with
  | error fault => rfl
  | ok p => exact h.isSome_eq p

theorem directoryPlace (h : w.Alike w') (directory : String) :
    Glob.directoryPlace w directory = Glob.directoryPlace w' directory := by
  unfold Glob.directoryPlace
  dsimp only
  rw [← h.locate]
  cases w.locate (if directory.isEmpty then "." else directory) with
  | error fault => rfl
  | ok p =>
    have hdirectory : (w.entryAt p == some .directory) = (w'.entryAt p == some .directory) := by
      rw [Bool.eq_iff_iff, beq_iff_eq, beq_iff_eq]
      exact h.directory_iff p
    simp only [hdirectory]

/-- The same names are in a directory. -/
theorem names (h : w.Alike w') (p : Place) :
    List.Forall₂ (fun x y => x.1 = y.1 ∧ (x.2 = .directory ↔ y.2 = .directory)) (w.names p) (w'.names p) := by
  refine List.rel_filterMap (fun x y hxy => ?_) h.entries
  rw [← hxy.1]
  cases x.1.getLast? with
  | none => exact .none
  | some name =>
    dsimp only
    split
    · exact .some ⟨rfl, hxy.2⟩
    · exact .none

theorem directory_beq {e e' : Entry} (h : e = .directory ↔ e' = .directory) :
    (e == .directory) = (e' == .directory) := by
  rw [Bool.eq_iff_iff, beq_iff_eq, beq_iff_eq]
  exact h

/-- What is picked by name, and by being a directory or not, is the same. -/
theorem filterMap_eq {α : Type} {xs ys : List (α × Entry)} {f : α × Entry → Option String}
    (h : List.Forall₂ (fun x y => x.1 = y.1 ∧ (x.2 = .directory ↔ y.2 = .directory)) xs ys)
    (hf : ∀ a e e', (e == Entry.directory) = (e' == .directory) → f (a, e) = f (a, e')) :
    xs.filterMap f = ys.filterMap f := by
  induction h with
  | nil => rfl
  | @cons x y xs ys hxy _ ih =>
    obtain ⟨a, e⟩ := x
    obtain ⟨a', e'⟩ := y
    obtain rfl : a = a' := hxy.1
    rw [List.filterMap_cons, List.filterMap_cons, hf a e e' (directory_beq hxy.2), ih]

theorem namesIn (h : w.Alike w') (directory : String) (onlyDirectories : Bool) :
    Glob.namesIn w directory onlyDirectories = Glob.namesIn w' directory onlyDirectories := by
  unfold Glob.namesIn
  rw [← h.directoryPlace]
  cases Glob.directoryPlace w directory with
  | none => rfl
  | some p => exact filterMap_eq (h.names p) fun a e e' he => by simp only [he]

theorem everythingBelow (h : w.Alike w') (directory : String) (onlyDirectories : Bool) :
    Glob.everythingBelow w directory onlyDirectories = Glob.everythingBelow w' directory onlyDirectories := by
  unfold Glob.everythingBelow
  rw [← h.directoryPlace]
  cases Glob.directoryPlace w directory with
  | none => rfl
  | some p => exact congrArg ("" :: ·) (filterMap_eq (h.below p) fun a e e' he => by simp only [bne, he])

theorem lastComponent (h : w.Alike w') (directory component : String) (onlyDirectories : Bool) :
    Glob.lastComponent w directory component onlyDirectories =
      Glob.lastComponent w' directory component onlyDirectories := by
  unfold Glob.lastComponent Glob.matchingNames Glob.exactName
  rw [h.everythingBelow, h.namesIn, h.isDirectory, h.exists?]

theorem expandFrom (h : w.Alike w') (fuel : Nat) (pattern : String) (onlyDirectories : Bool) :
    Glob.expandFrom w fuel pattern onlyDirectories = Glob.expandFrom w' fuel pattern onlyDirectories := by
  induction fuel generalizing pattern onlyDirectories with
  | zero => rfl
  | succ fuel ih =>
    unfold Glob.expandFrom
    simp only [h.isDirectory, h.exists?, h.lastComponent, ih]

/-- **The files of patterns** do not depend on what is in them. -/
theorem typeFiles (h : w.Alike w') (patterns : List String) : typeFiles w patterns = typeFiles w' patterns := by
  have hexpand : Glob.expandSorted w = Glob.expandSorted w' := by
    funext pattern
    unfold Glob.expandSorted Glob.expand
    rw [h.expandFrom]
  rw [RouteDoc.typeFiles, RouteDoc.typeFiles, hexpand]

end RouteDoc.Workspace.Alike
