/-
The order in which request types are searched for.

A lookup goes through patterns, the paths of a pattern, the files at those paths and the
types in those files, with files that it leaves out and places where it stops. All of it
is one search in a row: through the types of all files in order, for the first structure
of a name (`FirstStructure`, `requestType_first`). So paths that come again, files that
cannot be loaded, and whatever comes behind the first match make no difference, also
where the files were never there (`answer_without`).
-/
import RouteDoc.Proofs.Generator.Absences
import RouteDoc.Proofs.Session.Lookups

namespace RouteDoc

open Go

/-! ## First structures -/

/-- These are the fields of the first structure of a name among declared types. -/
def FirstStructure (name : String) (ts : List DeclaredType) (fields : List (TypeExpr × Option (List UInt8))) : Prop :=
  ∃ before t after, ts = before ++ t :: after ∧ t.name = name ∧ t.type = .struct fields ∧
    ∀ u ∈ before, u.name = name → ∀ fs, u.type ≠ .struct fs

/-- A field whose tag has a name for the path. -/
def Tagged (field : TypeExpr × Option (List UInt8)) : Prop :=
  ∃ tag ∈ field.2, (RequestType.uriIn (Text.decodeLossy tag)).isSome = true

namespace RequestType

variable {name : String} {ts us : List DeclaredType} {fields : List (TypeExpr × Option (List UInt8))}

theorem ofType?_eq_some_iff {type : TypeExpr} {found : RequestType} :
    ofType? type = some found ↔ ∃ fields, type = .struct fields ∧ found = ofFields fields := by
  cases type <;> simp [ofType?, eq_comm]

theorem ofType?_eq_none_iff {type : TypeExpr} : ofType? type = none ↔ ∀ fields, type ≠ .struct fields := by
  cases type <;> simp [ofType?]

theorem inTypes?_eq_some_iff {found : RequestType} :
    inTypes? name ts = some found ↔ ∃ fields, FirstStructure name ts fields ∧ found = ofFields fields := by
  unfold inTypes? FirstStructure
  rw [List.findSome?_eq_some_iff]
  constructor
  · intro ⟨before, t, after, hts, ht, hbefore⟩
    obtain ⟨hname, ht⟩ := Option.ite_none_right_eq_some.1 ht
    obtain ⟨fields, htype, hfound⟩ := ofType?_eq_some_iff.1 ht
    refine ⟨fields, ⟨before, t, after, hts, beq_iff_eq.1 hname, htype, fun u hu hu' => ?_⟩, hfound⟩
    have hnone := hbefore u hu
    rw [if_pos (beq_iff_eq.2 hu')] at hnone
    exact ofType?_eq_none_iff.1 hnone
  · intro ⟨fields, ⟨before, t, after, hts, hname, htype, hbefore⟩, hfound⟩
    refine ⟨before, t, after, hts, ?_, fun u hu => ?_⟩
    · rw [if_pos (beq_iff_eq.2 hname)]
      exact ofType?_eq_some_iff.2 ⟨fields, htype, hfound⟩
    · by_cases hu' : u.name = name
      · rw [if_pos (beq_iff_eq.2 hu')]
        exact ofType?_eq_none_iff.2 (hbefore u hu hu')
      · exact if_neg (by simpa using hu')

theorem inTypes?_eq_none_iff :
    inTypes? name ts = none ↔ ∀ t ∈ ts, t.name = name → ∀ fields, t.type ≠ .struct fields := by
  unfold inTypes?
  rw [List.findSome?_eq_none_iff]
  refine forall₂_congr fun t _ => ?_
  by_cases hname : t.name = name
  · simp [hname, ofType?_eq_none_iff]
  · simp [hname]

theorem inTypes?_append (name : String) (ts us : List DeclaredType) :
    inTypes? name (ts ++ us) = (inTypes? name ts).or (inTypes? name us) := List.findSome?_append

theorem insert_ne_nil (t : RequestType) (p : PathParam) : t.insert p ≠ [] := by
  unfold RequestType.insert
  split
  · rename_i hany
    obtain ⟨e, he, -⟩ := List.any_eq_true.1 hany
    simpa using List.ne_nil_of_mem he
  · simp

theorem param?_eq_none_iff {field : TypeExpr × Option (List UInt8)} :
    param? field.1 field.2 = none ↔ ¬Tagged field := by
  obtain ⟨type, tag⟩ := field
  cases tag with
  | none => simp [param?, Tagged]
  | some tag => cases huri : uriIn (Text.decodeLossy tag) <;> simp [param?, Tagged, huri]

/-- A structure without a tagged field binds nothing, and only such a structure does. -/
theorem ofFields_eq_nil_iff : ofFields fields = [] ↔ ∀ f ∈ fields, ¬Tagged f := by
  have hstays : ∀ (ps : List PathParam) (t : RequestType), t ≠ [] → ps.foldl RequestType.insert t ≠ [] := by
    intro ps
    induction ps with
    | nil => exact fun t ht => ht
    | cons p ps ih => exact fun t _ => ih _ (insert_ne_nil t p)
  have hfold : ∀ ps : List PathParam, ps.foldl RequestType.insert [] = [] ↔ ps = [] := by
    intro ps
    cases ps with
    | nil => simp
    | cons p ps => exact iff_of_false (hstays ps _ (insert_ne_nil [] p)) (List.cons_ne_nil p ps)
  rw [ofFields, hfold, List.filterMap_eq_nil_iff]
  exact forall₂_congr fun f _ => param?_eq_none_iff

end RequestType

/-! ## One search in a row -/

/-- To look into files one after the other is to look through all their types. -/
theorem inTypes?_flatMap (name : String) (types : String → List DeclaredType) (paths : List String) :
    RequestType.inTypes? name (paths.flatMap types) = paths.findSome? fun path => RequestType.inTypes? name (types path) := by
  induction paths with
  | nil => rfl
  | cons path paths ih =>
    rw [List.flatMap_cons, RequestType.inTypes?_append, ih, List.findSome?_cons]
    cases RequestType.inTypes? name (types path) <;> rfl

/-- What comes again is not found, since it was not found before. -/
theorem findSome?_dropRepeated {β : Type} {find : String → Option β} {seen : List String}
    (hseen : ∀ x ∈ seen, find x = none) (xs : List String) :
    (dropRepeated seen xs).findSome? find = xs.findSome? find := by
  induction xs generalizing seen with
  | nil => rfl
  | cons x xs ih =>
    rw [dropRepeated, List.findSome?_cons]
    split
    · rename_i hx
      rw [hseen x (List.contains_iff_mem.1 hx), ih hseen]
    · rw [List.findSome?_cons]
      cases hfind : find x with
      | some found => rfl
      | none => exact ih (List.forall_mem_cons.2 ⟨hfind, hseen⟩)

namespace Workspace

/-- The types that the file at a path declares, in order; none where it cannot be loaded. -/
def typesAt (w : Workspace) (path : String) : List DeclaredType :=
  match Source.load w (PathText.absolute w.cwdText path) with
  | .ok source => source.types
  | .error _ => []

/-- The paths that patterns stand for, pattern by pattern, also those that come again. -/
def listed (w : Workspace) (patterns : List String) : List String := patterns.flatMap (Glob.expandSorted w)

/-- The types that the files at paths declare, in order. -/
def declared (w : Workspace) (paths : List String) : List DeclaredType := paths.flatMap w.typesAt

theorem declared_nil (w : Workspace) : w.declared [] = [] := rfl

theorem declared_cons (w : Workspace) (path : String) (paths : List String) :
    w.declared (path :: paths) = w.typesAt path ++ w.declared paths := rfl

theorem declared_append (w : Workspace) (paths paths' : List String) :
    w.declared (paths ++ paths') = w.declared paths ++ w.declared paths' := List.flatMap_append

end Workspace

theorem typeNameOf_qualified {package name : String} (hpackage : '.' ∉ package.toList) (hname : '.' ∉ name.toList) :
    typeNameOf (package ++ "." ++ name) = some name := by
  have htext : (package ++ "." ++ name).toList = package.toList ++ '.' :: name.toList := by simp
  rw [typeNameOf, htext, Text.splitAt_append, Text.splitAt_of_not_mem hpackage, Text.splitAt_of_not_mem hname]
  simp

/-- The paths of a pattern are in the order of their code points. -/
theorem expandSorted_ordered (w : Workspace) (pattern : String) :
    (Glob.expandSorted w pattern).Perm (Glob.expand w pattern) ∧
      (Glob.expandSorted w pattern).Pairwise fun a b => Text.codePointLE a.toList b.toList = true :=
  ⟨List.mergeSort_perm _ _, Text.sortStrings_ordered _⟩

namespace Session

variable {w : Workspace} {s : Session} {package name : String}

theorem structure?_start (w : Workspace) (name path : String) :
    (start w).structure? name path = RequestType.inTypes? name (w.typesAt path) := by
  have hsources : (start w).sources = [] := rfl
  have hworkspace : (start w).workspace = w := rfl
  unfold structure? kept? keyOf Workspace.typesAt
  rw [hsources, hworkspace, List.find?_nil, Option.map_none, Option.none_or]
  cases Source.load w (PathText.absolute w.cwdText path) with
  | error failure => rfl
  | ok source => rfl

/-- The four loops of a lookup are one search. -/
theorem answer_start (hpackage : '.' ∉ package.toList) (hname : '.' ∉ name.toList) (w : Workspace)
    (patterns : List String) :
    (start w).answer patterns (package ++ "." ++ name) =
      (RequestType.inTypes? name (w.declared (w.listed patterns))).getD [] := by
  have hsame : (start w).structure? name = fun path => RequestType.inTypes? name (w.typesAt path) :=
    funext (structure?_start w name)
  have hworkspace : (start w).workspace = w := rfl
  rw [answer, typeNameOf_qualified hpackage hname, hworkspace, typeFiles]
  dsimp only
  rw [hsame, findSome?_dropRepeated (by simp)]
  rw [Workspace.declared, inTypes?_flatMap]
  rfl

/-- A search finds the first structure that the files at its paths declare. -/
theorem searchFiles_declared (hsources : ∀ e ∈ s.sources, Source.load s.workspace e.1 = .ok e.2)
    (file : Option String) (name : String) (paths : List String) :
    (s.searchFiles file name paths).1 = RequestType.inTypes? name (s.workspace.declared paths) := by
  have hsame : s.structure? name = fun path => RequestType.inTypes? name (s.workspace.typesAt path) := by
    funext path
    rw [← structure?_start, ← mirrors_of_sources hsources name path, among_eq rfl]
  rw [(searchFiles_structure file name paths s).1, hsame, Workspace.declared, inTypes?_flatMap]

/-- A session that was asked nothing answers what the tree says. -/
theorem requestType_new (hnew : s.requestTypes = [])
    (hsources : ∀ e ∈ s.sources, Source.load s.workspace e.1 = .ok e.2) (patterns : List String) (file : Option String)
    (qualified : String) :
    (s.requestType patterns file qualified).1 = (start s.workspace).answer patterns qualified := by
  rw [← (mirrors_of_sources hsources).answer rfl, ← (search_structure patterns file qualified s).1]
  obtain ⟨type, hfind, -⟩ | ⟨-, hanswer, -⟩ := requestType_cases patterns file qualified s
  · rw [hnew] at hfind
    cases hfind
  · exact hanswer

/-! ## Files that are not there -/

theorem listed_without {gone : List Place} (hw : w.Sound) (hgone : w.AreFiles gone) (patterns : List String) :
    (w.without gone).listed patterns = (w.listed patterns).filter fun path => !w.reaches gone path := by
  unfold Workspace.listed
  rw [List.filter_flatMap]
  refine List.flatMap_congr fun pattern _ => ?_
  rw [Glob.expandSorted, Workspace.expand_without hw hgone, Text.sortStrings_filter]
  rfl

theorem typesAt_without {gone : List Place} (hgone : w.AreFiles gone) (path : String) :
    (w.without gone).typesAt path =
      if w.reaches gone (PathText.absolute w.cwdText path) then [] else w.typesAt path := by
  have hcwd : (w.without gone).cwdText = w.cwdText := rfl
  unfold Workspace.typesAt
  rw [hcwd]
  generalize PathText.absolute w.cwdText path = key
  cases hlocate : w.locate key with
  | error fault =>
    -- Nothing is there in either tree.
    have hnone : ∀ w' : Workspace, (∀ q, w'.locate key ≠ .ok q) → ∃ failure, Source.load w' key = .error failure := by
      intro w' hnowhere
      unfold Source.load
      cases hread : w'.read key with
      | error fault => exact ⟨_, rfl⟩
      | ok bytes =>
        obtain ⟨q, hq, -⟩ := Workspace.read_eq_ok_iff.1 hread
        exact absurd hq (hnowhere q)
    obtain ⟨failure, hload⟩ := hnone w fun q hq => by rw [hlocate] at hq; cases hq
    obtain ⟨failure', hload'⟩ := hnone (w.without gone) fun q hq => by
      rw [Workspace.locate_without hgone, hlocate] at hq
      cases hq
    rw [hload, hload', ite_self]
  | ok q =>
    rw [Workspace.reaches_of_locate hlocate]
    by_cases hq : q ∈ gone
    · rw [if_pos (List.contains_iff_mem.2 hq)]
      have hgone' : ∀ bytes, (w.without gone).read key ≠ .ok bytes := by
        intro bytes hread
        obtain ⟨q', hq', hentry⟩ := Workspace.read_eq_ok_iff.1 hread
        rw [Workspace.locate_without hgone, hlocate] at hq'
        rw [← Except.ok.inj hq', Workspace.entryAt_without hgone, if_pos hq] at hentry
        cases hentry
      unfold Source.load
      cases hread : (w.without gone).read key with
      | error fault => rfl
      | ok bytes => exact absurd hread (hgone' bytes)
    · rw [if_neg (by simpa using hq), Workspace.load_kept hgone hlocate hq]

/-- Files that could not be loaded declare nothing less when they are gone. -/
theorem declared_without {gone : List Place} (hw : w.Sound) (hgone : w.AreFiles gone) {paths : List String}
    (hpaths : ∀ path ∈ paths, w.reaches gone (PathText.absolute w.cwdText path) = true → w.typesAt path = []) :
    (w.without gone).declared (paths.filter fun path => !w.reaches gone path) = w.declared paths := by
  induction paths with
  | nil => rw [List.filter_nil, Workspace.declared_nil, Workspace.declared_nil]
  | cons path paths ih =>
    obtain ⟨hpath, hpaths⟩ := List.forall_mem_cons.1 hpaths
    rw [List.filter_cons, Workspace.declared_cons]
    by_cases hreaches : w.reaches gone path = true
    · obtain ⟨q, hq, hlocate⟩ := Workspace.reaches_iff.1 hreaches
      have hkey := Workspace.reaches_iff.2 ⟨q, hq, Workspace.locate_absolute hw hlocate⟩
      simp only [hreaches, Bool.not_true, Bool.false_eq_true, if_false]
      rw [hpath hkey, List.nil_append, ih hpaths]
    · simp only [hreaches, Bool.not_false, if_true]
      rw [Workspace.declared_cons, ih hpaths, typesAt_without hgone]
      split
      · rename_i hkey
        rw [hpath hkey]
      · rfl

/-- **Files that make no difference**: those that cannot be loaded, and those behind the first match. -/
theorem answer_without (hpackage : '.' ∉ package.toList) (hname : '.' ∉ name.toList) {gone : List Place}
    (hw : w.Sound) (hgone : w.AreFiles gone) {patterns paths later : List String}
    (hlisted : w.listed patterns = paths ++ later)
    (hpaths : ∀ path ∈ paths, w.reaches gone (PathText.absolute w.cwdText path) = true → w.typesAt path = [])
    (hlater : later = [] ∨ ∃ fields, FirstStructure name (w.declared paths) fields) :
    (start (w.without gone)).answer patterns (package ++ "." ++ name) =
      (start w).answer patterns (package ++ "." ++ name) := by
  rw [answer_start hpackage hname, answer_start hpackage hname, listed_without hw hgone, hlisted, List.filter_append,
    Workspace.declared_append, Workspace.declared_append, declared_without hw hgone hpaths]
  rcases hlater with rfl | ⟨fields, hfirst⟩
  · rw [List.filter_nil, Workspace.declared_nil, Workspace.declared_nil]
  · rw [RequestType.inTypes?_append, RequestType.inTypes?_append,
      RequestType.inTypes?_eq_some_iff.2 ⟨fields, hfirst, rfl⟩, Option.some_or, Option.some_or]

/-- **A lookup finds the first structure** of the name in the whole search order: patterns as they are given, the
paths of a pattern in the order of their code points, the types of a file in the order of the text. Files that cannot be
loaded declare nothing, and types of the name that are no structures do not count. Nothing is found exactly where there
is no such structure, or where none of its fields is tagged. It makes no difference to leave out paths that come again,
or to search paths besides that declare nothing, or any paths behind the first match; nor does it make a difference to
take such files away from the tree. -/
theorem requestType_first (hnew : s.requestTypes = [])
    (hsources : ∀ e ∈ s.sources, Source.load s.workspace e.1 = .ok e.2) (patterns : List String) (file : Option String)
    (hpackage : '.' ∉ package.toList) (hname : '.' ∉ name.toList) :
    let w := s.workspace
    let answer := (s.requestType patterns file (package ++ "." ++ name)).1
    let types := w.declared (w.listed patterns)
    (∀ fields, FirstStructure name types fields → answer = RequestType.ofFields fields) ∧
    (answer = [] ↔ (∀ t ∈ types, t.name = name → ∀ fields, t.type ≠ .struct fields) ∨
      ∃ fields, FirstStructure name types fields ∧ ∀ f ∈ fields, ¬Tagged f) ∧
    (∀ pattern, (Glob.expandSorted w pattern).Perm (Glob.expand w pattern) ∧
      (Glob.expandSorted w pattern).Pairwise fun a b => Text.codePointLE a.toList b.toList = true) ∧
    (∀ paths, (s.searchFiles file name (dropRepeated [] paths)).1 = (s.searchFiles file name paths).1) ∧
    (∀ paths extra later, (∀ path ∈ extra, w.typesAt path = []) →
      (s.searchFiles file name (paths ++ extra ++ later)).1 = (s.searchFiles file name (paths ++ later)).1) ∧
    (∀ paths later, (∃ fields, FirstStructure name (w.declared paths) fields) →
      (s.searchFiles file name (paths ++ later)).1 = (s.searchFiles file name paths).1) ∧
    ∀ gone paths later, w.Sound → w.AreFiles gone → w.listed patterns = paths ++ later →
      (∀ path ∈ paths, w.reaches gone (PathText.absolute w.cwdText path) = true → w.typesAt path = []) →
      (later = [] ∨ ∃ fields, FirstStructure name (w.declared paths) fields) →
      ((start (w.without gone)).requestType patterns file (package ++ "." ++ name)).1 = answer := by
  intro w answer types
  have hanswer : answer = (RequestType.inTypes? name types).getD [] :=
    (requestType_new hnew hsources patterns file _).trans (answer_start hpackage hname w patterns)
  have hfirst : ∀ fields, FirstStructure name types fields → answer = RequestType.ofFields fields := by
    intro fields hfields
    rw [hanswer, RequestType.inTypes?_eq_some_iff.2 ⟨fields, hfields, rfl⟩]
    rfl
  refine ⟨hfirst, ?_, expandSorted_ordered w, fun paths => ?_, fun paths extra later hextra => ?_,
    fun paths later ⟨fields, hfields⟩ => ?_, fun gone paths later hw hgone hlisted hpaths hlater => ?_⟩
  · cases hfound : RequestType.inTypes? name types with
    | none =>
      refine iff_of_true (by rw [hanswer, hfound]; rfl) (.inl (RequestType.inTypes?_eq_none_iff.1 hfound))
    | some found =>
      obtain ⟨fields, hfields, -⟩ := RequestType.inTypes?_eq_some_iff.1 hfound
      rw [hfirst fields hfields, RequestType.ofFields_eq_nil_iff]
      constructor
      · exact fun htags => .inr ⟨fields, hfields, htags⟩
      · rintro (hnone | ⟨fields', hfields', htags⟩)
        · rw [RequestType.inTypes?_eq_none_iff.2 hnone] at hfound
          cases hfound
        · rw [← RequestType.ofFields_eq_nil_iff, ← hfirst fields' hfields', hfirst fields hfields,
            RequestType.ofFields_eq_nil_iff] at htags
          exact htags
  · rw [(searchFiles_structure file name _ s).1, (searchFiles_structure file name _ s).1,
      findSome?_dropRepeated (by simp)]
  · have hnothing : w.declared extra = [] := List.flatMap_eq_nil_iff.2 hextra
    rw [searchFiles_declared hsources, searchFiles_declared hsources, Workspace.declared_append,
      Workspace.declared_append, hnothing, List.append_nil, Workspace.declared_append]
  · rw [searchFiles_declared hsources, searchFiles_declared hsources, Workspace.declared_append,
      RequestType.inTypes?_append, RequestType.inTypes?_eq_some_iff.2 ⟨fields, hfields, rfl⟩, Option.some_or]
  · rw [requestType_start, answer_without hpackage hname hw hgone hlisted hpaths hlater]
    exact (requestType_new hnew hsources patterns file _).symm

/-- A tree with a file that cannot be parsed, a type that is no structure, and two structures of the same name. -/
def manyTypes : Workspace where
  entries := [(["a.go"], .file (Text.utf8 "type \x7b\n")), (["b.go"], .file (Text.utf8 "type A int\n")),
    (["c.go"], .file (Text.utf8 "type (\n\tB int\n\tA struct \x7b\n\t\tX int `uri:\"x\"`\n\t\x7d\n)\n")),
    (["d.go"], .file (Text.utf8 "type A struct \x7b\x7d\n"))]
  cwd := []

/-- The first structure of the name counts, and neither the file that cannot be parsed nor the last one matters. -/
theorem requestType_first_manyTypes :
    ((start manyTypes).requestType ["*.go"] none ("t" ++ "." ++ "A")).1 = [("x", ⟨"x", "integer", false⟩)] ∧
      ((start (manyTypes.without [["a.go"], ["d.go"]])).requestType ["*.go"] none ("t" ++ "." ++ "A")).1 =
        [("x", ⟨"x", "integer", false⟩)] := by
  have hexpand : Glob.expand manyTypes "*.go" = ["a.go", "b.go", "c.go", "d.go"] := by decide +kernel
  have hlisted : manyTypes.listed ["*.go"] = ["a.go", "b.go", "c.go"] ++ ["d.go"] := by
    rw [Workspace.listed, List.flatMap_singleton, Glob.expandSorted, hexpand, Text.sortStrings,
      List.mergeSort_of_pairwise (by decide +kernel)]
    rfl
  have hfound : RequestType.inTypes? "A" (manyTypes.declared ["a.go", "b.go", "c.go"]) =
      some [("x", ⟨"x", "integer", false⟩)] := by decide +kernel
  obtain ⟨fields, hfields, hparams⟩ := RequestType.inTypes?_eq_some_iff.1 hfound
  have hall : ∃ fields, FirstStructure "A" (manyTypes.declared (manyTypes.listed ["*.go"])) fields ∧
      [("x", ⟨"x", "integer", false⟩)] = RequestType.ofFields fields := by
    rw [← RequestType.inTypes?_eq_some_iff, hlisted, Workspace.declared_append, RequestType.inTypes?_append, hfound,
      Option.some_or]
  obtain ⟨hfirst, -, -, -, -, -, hgone⟩ := requestType_first (s := start manyTypes) rfl
    (fun _ he => absurd he List.not_mem_nil) ["*.go"] none (by decide +kernel : '.' ∉ "t".toList)
    (by decide +kernel : '.' ∉ "A".toList)
  obtain ⟨fields', hfields', hparams'⟩ := hall
  have hanswer := (hfirst fields' hfields').trans hparams'.symm
  refine ⟨hanswer, (hgone [["a.go"], ["d.go"]] _ _ ?_ ?_ hlisted ?_ (.inr ⟨fields, hfields⟩)).trans hanswer⟩
  · decide +kernel
  · intro q hq
    rcases List.mem_cons.1 hq with rfl | hq
    · exact ⟨_, rfl⟩
    · rw [List.mem_singleton.1 hq]
      exact ⟨_, rfl⟩
  · have hunloadable : ∀ path ∈ ["a.go", "b.go", "c.go"],
        manyTypes.reaches [["a.go"], ["d.go"]] (PathText.absolute manyTypes.cwdText path) = true →
        (manyTypes.typesAt path).length = 0 := by decide +kernel
    exact fun path hpath hreaches => List.length_eq_zero_iff.1 (hunloadable path hpath hreaches)

end Session

end RouteDoc
