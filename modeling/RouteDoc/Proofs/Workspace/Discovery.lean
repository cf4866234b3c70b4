/-
Which handler files there are.

Discovery lists the files with a name that the pattern stands for, in all the
directories that a walk from the top comes through, each once, by the path of the
walk and in the order of the paths (`handlerFiles_exact`): that order is another
one than that of the walk, since a slash stands behind some of the characters of
names and in front of others.
-/
import Mathlib.Data.List.Induction
import RouteDoc.Proofs.Workspace.Absent
import RouteDoc.Proofs.Workspace.Patterns

namespace RouteDoc

/-! ## Strictly in order -/

theorem Text.lt_of_codePointLE {a b : List Char} (h : codePointLE a b = true) (hne : a ≠ b) : a < b := by
  induction a generalizing b with
  | nil =>
    cases b with
    | nil => exact absurd rfl hne
    | cons y b => exact List.nil_lt_cons y b
  | cons x a ih =>
    cases b with
    | nil => cases h
    | cons y b =>
      rw [List.cons_lt_cons_iff]
      simp only [codePointLE, Bool.or_eq_true, Bool.and_eq_true, decide_eq_true_eq, beq_iff_eq] at h
      rcases h with hxy | ⟨rfl, hab⟩
      · exact .inl hxy
      · exact .inr ⟨rfl, ih hab fun heq => hne (heq ▸ rfl)⟩

namespace Workspace

variable {w : Workspace} {dir path pattern : String} {place p : Place}

/-! ## Directories -/

/-- The directories that a walk comes through, each with its path: the top, and in each of them every
directory that it holds, hidden or not. -/
inductive Walks (w : Workspace) (dir : String) : String → Place → Prop where
  | top {p : Place} (hlocate : w.locate dir = .ok p) (hp : w.entryAt p = some .directory) : Walks w dir dir p
  | into {path name : String} {p : Place} (hpath : Walks w dir path p)
      (hname : w.entryAt (p ++ [name]) = some .directory) : Walks w dir (PathText.join path name) (p ++ [name])

theorem Walks.directory (h : w.Walks dir path p) : w.entryAt p = some .directory := by
  cases h with
  | top hlocate hp => exact hp
  | into hpath hname => exact hname

theorem Walks.locate (hw : w.Sound) (h : w.Walks dir path p) : w.locate path = .ok p := by
  induction h with
  | top hlocate hp => exact hlocate
  | into hpath hname ih =>
    have hproper := hw.names (by rw [hname]; rfl) _ (List.mem_append_right _ List.mem_cons_self)
    exact locate_join ih hpath.directory hproper

theorem pathBelow_concat (dir : String) (rest : Place) (name : String) :
    Discovery.pathBelow dir (rest ++ [name]) = PathText.join (Discovery.pathBelow dir rest) name := by
  simp [Discovery.pathBelow]

theorem Walks.descends (h : w.Walks dir path p) (hplace : w.locate dir = .ok place) :
    ∃ rest, p = place ++ rest ∧ path = Discovery.pathBelow dir rest := by
  induction h with
  | top hlocate hp =>
    obtain rfl := Except.ok.inj (hplace.symm.trans hlocate)
    exact ⟨[], (List.append_nil place).symm, rfl⟩
  | @into path name p hpath hname ih =>
    obtain ⟨rest, rfl, rfl⟩ := ih
    exact ⟨rest ++ [name], List.append_assoc .., (pathBelow_concat dir rest name).symm⟩

/-- Every directory below the top is come through. -/
theorem walks_below (hw : w.Sound) (hplace : w.locate dir = .ok place) {rest : Place}
    (h : w.entryAt (place ++ rest) = some .directory) : w.Walks dir (Discovery.pathBelow dir rest) (place ++ rest) := by
  induction rest using List.reverseRecOn with
  | nil =>
    rw [List.append_nil] at h ⊢
    exact .top hplace h
  | append_singleton rest name ih =>
    rw [← List.append_assoc] at h ⊢
    have hparent := hw.parent (p := place ++ rest ++ [name]) (by rw [h]; rfl) (by simp)
    rw [List.dropLast_concat] at hparent
    rw [pathBelow_concat]
    exact .into (ih hparent) h

/-! ## Files -/

theorem mem_handlerFiles (hw : w.Sound) (hplace : w.locate dir = .ok place) {files : List String}
    (h : Discovery.handlerFiles w dir pattern = .ok files) {f : String} :
    f ∈ files ↔ ∃ rest name bytes, f = PathText.join (Discovery.pathBelow dir rest) name ∧
      w.entryAt (place ++ rest ++ [name]) = some (.file bytes) ∧ Pattern.Matches pattern name := by
  obtain ⟨place', hplace', -, rfl⟩ := handlerFiles_ok h
  obtain rfl := Except.ok.inj (hplace.symm.trans hplace')
  rw [Text.sortStrings, (List.mergeSort_perm _ _).mem_iff, List.mem_map]
  constructor
  · rintro ⟨x, hx, rfl⟩
    obtain ⟨hbelow, hmatches⟩ := List.mem_filter.1 hx
    obtain ⟨rest, name, bytes, rfl, haccepts⟩ := matchesFile_iff.1 hmatches
    refine ⟨rest, name, bytes, pathBelow_concat dir rest name, ?_, Pattern.accepts_iff.1 haccepts⟩
    rw [List.append_assoc]
    exact hw.entryAt_of_mem (mem_below.1 hbelow).2
  · rintro ⟨rest, name, bytes, rfl, hentry, hmatches⟩
    rw [List.append_assoc] at hentry
    refine ⟨(rest ++ [name], .file bytes), List.mem_filter.2 ⟨?_, ?_⟩, pathBelow_concat dir rest name⟩
    · exact mem_below.2 ⟨by simp, mem_of_entryAt hentry (by simp)⟩
    · exact matchesFile_iff.2 ⟨rest, name, bytes, rfl, Pattern.accepts_iff.2 hmatches⟩

theorem handlerFiles_ascending (hw : w.Sound) {files : List String}
    (h : Discovery.handlerFiles w dir pattern = .ok files) : files.Pairwise (· < ·) := by
  have hdistinct := (handlerFiles_files hw h).2
  obtain ⟨place, -, -, rfl⟩ := handlerFiles_ok h
  refine ((Text.sortStrings_ordered _).and hdistinct).imp fun {a b} hab => ?_
  have hne : a.toList ≠ b.toList := fun heq => hab.2 (congrArg w.locate (String.toList_inj.1 heq))
  exact Text.lt_of_codePointLE hab.1 hne

/-- **Discovery is exact.** Where a path names a directory, its handler files are listed strictly in the
order of their paths, so none of them twice. A name in a directory that a walk comes through is listed, by
its path, exactly where the directory holds an entry of that name that is no directory and the pattern
stands for the name. Nothing else is listed, and no directory. -/
theorem handlerFiles_exact (hw : w.Sound) (hdir : w.isDirectory dir = true) (pattern : String) :
    ∃ files, Discovery.handlerFiles w dir pattern = .ok files ∧ files.Pairwise (· < ·) ∧
      (∀ {path : String} {p : Place} {name : String}, w.Walks dir path p → ProperName name →
        (PathText.join path name ∈ files ↔
          (∃ e, w.entryAt (p ++ [name]) = some e ∧ e ≠ .directory) ∧ Pattern.Matches pattern name)) ∧
      ∀ f ∈ files, (∃ path p name, w.Walks dir path p ∧ ProperName name ∧ f = PathText.join path name) ∧
        w.isDirectory f = false := by
  obtain ⟨place, hplace, hdirectory⟩ := isDirectory_iff.1 hdir
  obtain ⟨files, hfiles⟩ : ∃ files, Discovery.handlerFiles w dir pattern = .ok files := by
    cases h : Discovery.handlerFiles w dir pattern with
    | ok files => exact ⟨files, rfl⟩
    | error failure =>
      rw [(handlerFiles_error_iff.1 h).1] at hdir
      cases hdir
  -- A listed name stands in a directory of the walk, and its path leads to its place.
  have hlisted : ∀ {f : String}, f ∈ files → ∃ path p name bytes, w.Walks dir path p ∧ ProperName name ∧
      f = PathText.join path name ∧ w.locate f = .ok (p ++ [name]) ∧ w.entryAt (p ++ [name]) = some (.file bytes) ∧
      Pattern.Matches pattern name := by
    intro f hf
    obtain ⟨rest, name, bytes, rfl, hentry, hmatches⟩ := (mem_handlerFiles hw hplace hfiles).1 hf
    have hparent := hw.parent (by rw [hentry]; rfl) (by simp)
    rw [List.dropLast_concat] at hparent
    have hwalk := walks_below hw hplace hparent
    have hproper := hw.names (by rw [hentry]; rfl) name (List.mem_append_right _ List.mem_cons_self)
    exact ⟨_, _, name, bytes, hwalk, hproper, rfl, locate_join (hwalk.locate hw) hparent hproper, hentry, hmatches⟩
  refine ⟨files, hfiles, handlerFiles_ascending hw hfiles, fun {path p name} hwalk hproper => ⟨fun hf => ?_, ?_⟩,
    fun f hf => ?_⟩
  · obtain ⟨path', p', name', bytes, hwalk', -, -, hlocate', hentry, hmatches⟩ := hlisted hf
    have hlocate := locate_join (hwalk.locate hw) hwalk.directory hproper
    obtain ⟨rfl, heq⟩ := List.append_inj' (Except.ok.inj (hlocate.symm.trans hlocate')) rfl
    obtain rfl : name = name' := by simpa using heq
    exact ⟨⟨_, hentry, by simp⟩, hmatches⟩
  · rintro ⟨⟨e, hentry, hne⟩, hmatches⟩
    obtain ⟨rest, rfl, rfl⟩ := hwalk.descends hplace
    cases e with
    | directory => exact absurd rfl hne
    | file bytes => exact (mem_handlerFiles hw hplace hfiles).2 ⟨rest, name, bytes, rfl, hentry, hmatches⟩
  · obtain ⟨path, p, name, bytes, hwalk, hproper, hf, hlocate, hentry, -⟩ := hlisted hf
    refine ⟨⟨path, p, name, hwalk, hproper, hf⟩, ?_⟩
    simp [isDirectory, hlocate, hentry]

/-- A tree with a directory whose name is that of a file, a hidden one, and a file with another name. -/
def leafyTree : Workspace where
  entries := [(["h"], .directory), (["h", "a"], .directory), (["h", "a", "z.go"], .file []),
    (["h", "a", "z.gob"], .file []), (["h", "a-b.go"], .file []), (["h", "a.go"], .directory),
    (["h", ".b"], .directory), (["h", ".b", "x.go"], .file [])]
  cwd := []

theorem handlerFiles_exact_leafyTree :
    leafyTree.Sound ∧ leafyTree.isDirectory "h" = true ∧
    ∃ files, Discovery.handlerFiles leafyTree "h" "*.go" = .ok files ∧ files.Pairwise (· < ·) ∧
      "h/.b/x.go" ∈ files ∧ "h/a/z.go" ∈ files ∧ "h/a/z.gob" ∉ files ∧ "h/a.go" ∉ files := by
  have hw : leafyTree.Sound := by decide +kernel
  have hdir : leafyTree.isDirectory "h" = true := by decide +kernel
  obtain ⟨files, hfiles, hascending, hexact, hnone⟩ := handlerFiles_exact hw hdir "*.go"
  have htop : leafyTree.Walks "h" "h" ["h"] := .top (by decide +kernel) (by decide +kernel)
  have hhidden : leafyTree.Walks "h" (PathText.join "h" ".b") ["h", ".b"] := .into htop (by decide +kernel)
  have hinner : leafyTree.Walks "h" (PathText.join "h" "a") ["h", "a"] := .into htop (by decide +kernel)
  have hpaths : PathText.join (PathText.join "h" ".b") "x.go" = "h/.b/x.go" ∧
      PathText.join (PathText.join "h" "a") "z.go" = "h/a/z.go" ∧
      PathText.join (PathText.join "h" "a") "z.gob" = "h/a/z.gob" := by decide +kernel
  refine ⟨hw, hdir, files, hfiles, hascending, ?_, ?_, fun hmem => ?_, fun hmem => ?_⟩
  · rw [← hpaths.1]
    exact (hexact hhidden (by decide)).2 ⟨⟨.file [], by decide, by decide⟩, Pattern.accepts_iff.1 (by decide)⟩
  · rw [← hpaths.2.1]
    exact (hexact hinner (by decide)).2 ⟨⟨.file [], by decide, by decide⟩, Pattern.accepts_iff.1 (by decide)⟩
  · rw [← hpaths.2.2] at hmem
    have haccepts := Pattern.accepts_iff.2 ((hexact hinner (by decide)).1 hmem).2
    exact absurd haccepts (by decide)
  · exact absurd (hnone "h/a.go" hmem).2 (by decide +kernel)

end Workspace

end RouteDoc
