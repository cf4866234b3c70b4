/-
Doc blocks as line comments.

The bytes of a doc block are line comments (`utf8_block`), and where the texts
that a block is made of stay on their line, so do its lines: the block is read
back as the lines it was made of, and the last of them names the route
(`docLines_block`).
-/
import RouteDoc.Proofs.Generator.Sessions
import RouteDoc.Proofs.Naming.Words
import RouteDoc.Proofs.Splicing.Rewrite

namespace RouteDoc

open Go

/-! ## Control characters

The control characters of a text that is made of others are theirs. -/

namespace Text

/-- A text without control characters. -/
def NoControls (s : List Char) : Prop := ∀ c ∈ s, 0x20 ≤ c.toNat

instance (s : List Char) : Decidable (NoControls s) :=
  decidable_of_iff (s.all (fun c => decide (0x20 ≤ c.toNat)) = true) (by simp [NoControls])

theorem noControls_append {s t : List Char} : NoControls (s ++ t) ↔ NoControls s ∧ NoControls t :=
  List.forall_mem_append

variable {x : Char} (hx : x.toNat < 0x20)

include hx

theorem NoControls.not_mem {s : List Char} (h : NoControls s) : x ∉ s := by
  intro hmem
  have hle := h x hmem
  omega

theorem noImage_of_control : NoImage x := .inl (by omega)

end Text

open Text (NoControls)

/-! ## The lines of a block -/

namespace DocBlock

/-- A placeholder stands in the path with its closing brace behind it. -/
theorem append_of_placeholder {skip : Nat} {path name : CodeText} (h : name ∈ Route.placeholdersFrom skip path) :
    ∃ front back, path = front ++ (name ++ .char '}' :: back) := by
  induction path generalizing skip with
  | nil => cases skip <;> cases h
  | cons x path ih =>
    have hlater : ∀ {skip}, name ∈ Route.placeholdersFrom skip path →
        ∃ front back, x :: path = front ++ (name ++ .char '}' :: back) := by
      intro skip h
      obtain ⟨front, back, rfl⟩ := ih h
      exact ⟨x :: front, back, rfl⟩
    cases skip with
    | succ skip => exact hlater h
    | zero =>
      rw [Route.placeholdersFrom] at h
      split at h
      · split at h
        · rename_i found hfound
          rcases List.mem_cons.1 h with rfl | h
          · unfold Route.placeholderAt at hfound
            dsimp only at hfound
            split at hfound
            · cases hfound
            · rename_i hlength
              obtain rfl := Option.some.inj hfound
              have hsplit := List.takeWhile_append_dropWhile (p := (· != .char '}')) (l := path)
              have hclose := List.head?_dropWhile_not (· != .char '}') path
              cases hrest : path.dropWhile (· != .char '}') with
              | nil =>
                rw [hrest, List.append_nil] at hsplit
                rw [hsplit] at hlength
                simp at hlength
              | cons c back =>
                rw [hrest] at hsplit hclose
                obtain rfl : c = .char '}' := by simpa using hclose
                exact ⟨[x], back, by rw [List.singleton_append, hsplit]⟩
          · exact hlater h
        · exact hlater h
      · exact hlater h

variable {scheme : CodeText} {name receiver : String} {type : RequestType} {route : Route}

section

variable {x : Char} (hx : x.toNat < 0x20)

include hx

theorem not_mem_summary (hname : x ∉ name.toList) : x ∉ (summary name).toList := by
  rw [summary, splitCamelString, String.toList_ofList]
  intro hmem
  rcases Text.mem_splitCamel hmem with hsep | hword
  · exact Text.NoControls.not_mem hx (by decide) hsep
  · exact hname hword

theorem not_mem_describe (hname : x ∉ name.toList) : x ∉ (describe name).toList := by
  have hleads : ∀ e ∈ descriptionLeads, NoControls e.2.toList := by decide
  unfold describe
  dsimp only
  split
  · exact not_mem_summary hx hname
  · rename_i e he
    rw [String.toList_append, String.toList_ofList, List.mem_append, not_or]
    refine ⟨(hleads e (List.mem_of_find?_eq_some he)).not_mem hx, fun hmem => ?_⟩
    exact not_mem_summary hx hname (Text.mem_of_mem_dropLeading hmem)

theorem not_mem_tag (hreceiver : x ∉ receiver.toList) : x ∉ (tag receiver).toList := by
  rw [tag, Text.lowerString, String.toList_ofList, String.toList_ofList]
  exact Text.not_mem_lower (Text.noImage_of_control hx) fun hmem => hreceiver (Text.mem_of_mem_dropTrailing hmem)

omit hx in
/-- The name of a parameter stands twice in its line. -/
theorem paramLine_eq (htype : type.KnownKinds) (name : CodeText) :
    ∃ between : String, NoControls between.toList ∧
      paramLine type name = "@Param " ++ name ++ between ++ name ++ "\"" := by
  have hkind : (paramFacts type name).1 ∈ kindNames := by
    unfold paramFacts
    split
    · rename_i p hget
      obtain ⟨e, he, rfl⟩ := Option.map_eq_some_iff.1 hget
      exact htype e (List.mem_of_find?_eq_some he)
    · dsimp only
      split <;> decide
  have hkinds : ∀ kind ∈ kindNames, NoControls kind.toList := by decide
  have hbool : ∀ b, NoControls (boolText b).toList := by decide
  unfold paramLine
  generalize paramFacts type name = facts at hkind
  obtain ⟨kind, required⟩ := facts
  refine ⟨" path " ++ kind ++ " " ++ boolText required ++ " \"", ?_, by simp⟩
  simp only [String.toList_append, Text.noControls_append]
  exact ⟨⟨⟨⟨by decide, hkinds _ hkind⟩, by decide⟩, hbool _⟩, by decide⟩

theorem not_mem_requestLine (hname : x ∉ name.toList) (method : CodeText) :
    x ∉ (requestLine name method).toList := by
  have hliterals : NoControls "@Param req ".toList ∧ NoControls " ".toList ∧ NoControls "types.".toList ∧
      NoControls "Req".toList ∧ NoControls " \"req\"".toList := by decide
  have hplace : NoControls (if method == "get" then "query" else "body").toList := by split <;> decide
  have hrequired : NoControls (if method == "get" then "false" else "true").toList := by split <;> decide
  unfold requestLine requestName
  simp only [String.toList_append, List.mem_append, not_or]
  exact ⟨⟨⟨⟨⟨⟨hliterals.1.not_mem hx, hplace.not_mem hx⟩, hliterals.2.1.not_mem hx⟩,
    ⟨hliterals.2.2.1.not_mem hx, hname⟩, hliterals.2.2.2.1.not_mem hx⟩, hliterals.2.1.not_mem hx⟩,
    hrequired.not_mem hx⟩, hliterals.2.2.2.2.not_mem hx⟩

theorem not_mem_successLine (hname : x ∉ name.toList) (method : CodeText) :
    x ∉ (successLine name method).toList := by
  have hcode : NoControls (toString (statusCode method)).toList := by
    unfold statusCode
    split
    · decide
    · split <;> decide
  have hliterals : NoControls "@Success ".toList ∧
      NoControls " \x7bobject\x7d types.Response\x7bdata=types.".toList ∧
      NoControls "Resp\x7d \"Success\"".toList := by decide
  simp only [successLine, String.toList_append, List.mem_append, not_or]
  exact ⟨⟨⟨⟨hliterals.1.not_mem hx, hcode.not_mem hx⟩, hliterals.2.1.not_mem hx⟩, hname⟩, hliterals.2.2.not_mem hx⟩

/-- The lines that say nothing about the path keep off a control character. -/
theorem lines_cases (hscheme : .char x ∉ scheme) (hname : x ∉ name.toList) (hreceiver : x ∉ receiver.toList) :
    ∀ l ∈ lines scheme type name receiver route, .char x ∉ l ∨
      (∃ p ∈ Route.placeholders route.path, l = paramLine type p) ∨
      l = "@Router " ++ route.path ++ " [" ++ route.method ++ "]" := by
  have hfailures : ∀ l ∈ failureLines, NoControls l.toList := by decide
  have hlead : ∀ {lead s : String}, NoControls lead.toList → x ∉ s.toList → x ∉ (lead ++ s).toList := by
    intro lead s hlead hs
    rw [String.toList_append, List.mem_append, not_or]
    exact ⟨hlead.not_mem hx, hs⟩
  -- The lines of characters first, and then those that a path, a method or a scheme goes into.
  have hhead : ∀ l ∈ [name ++ " godoc", "@Summary " ++ summary name, "@Description " ++ describe name,
      "@Tags " ++ tag receiver, "@Accept json", "@Produce json"], x ∉ l.toList := by
    simp only [List.forall_mem_cons]
    refine ⟨?_, hlead (by decide) (not_mem_summary hx hname), hlead (by decide) (not_mem_describe hx hname),
      hlead (by decide) (not_mem_tag hx hreceiver), Text.NoControls.not_mem hx (by decide),
      Text.NoControls.not_mem hx (by decide), by simp⟩
    rw [String.toList_append, List.mem_append, not_or]
    exact ⟨hname, Text.NoControls.not_mem hx (by decide)⟩
  have hanswers : ∀ l ∈ successLine name route.method :: failureLines, x ∉ l.toList :=
    List.forall_mem_cons.2 ⟨not_mem_successLine hx hname route.method, fun l hl => (hfailures l hl).not_mem hx⟩
  intro l hl
  simp only [lines, paramLines, List.mem_append, List.mem_singleton, List.mem_map (f := CodeText.ofString),
    List.mem_map (f := paramLine type)] at hl
  rcases hl with (((⟨l, hl, rfl⟩ | ⟨p, hp, rfl⟩ | rfl) | ⟨l, hl, rfl⟩) | hl) | rfl
  · exact .inl (CodeText.char_mem_ofString.not.2 (hhead l hl))
  · exact .inr (.inl ⟨p, hp, rfl⟩)
  · exact .inl (CodeText.char_mem_ofString.not.2 (not_mem_requestLine hx hname route.method))
  · exact .inl (CodeText.char_mem_ofString.not.2 (hanswers l hl))
  · split at hl
    · rw [List.mem_singleton.1 hl, List.mem_append, not_or, CodeText.char_mem_ofString]
      exact .inl ⟨Text.NoControls.not_mem hx (by decide), hscheme⟩
    · cases hl
  · exact .inr (.inr rfl)

/-- A control character of a line is one of the texts that the block is made of. -/
theorem not_mem_lines (hscheme : .char x ∉ scheme) (htype : type.KnownKinds) (hname : x ∉ name.toList)
    (hreceiver : x ∉ receiver.toList) (hpath : .char x ∉ route.path) (hmethod : .char x ∉ route.method) :
    ∀ l ∈ lines scheme type name receiver route, .char x ∉ l := by
  intro l hl
  rcases lines_cases hx hscheme hname hreceiver l hl with hl | ⟨p, hp, rfl⟩ | rfl
  · exact hl
  · obtain ⟨front, back, hsplit⟩ := append_of_placeholder hp
    have hfree : .char x ∉ p := fun hmem =>
      hpath (hsplit ▸ List.mem_append_right front (List.mem_append_left _ hmem))
    obtain ⟨between, hbetween, hline⟩ := paramLine_eq htype p
    have hends : NoControls "@Param ".toList ∧ NoControls "\"".toList := by decide
    rw [hline]
    simp only [List.mem_append, not_or, CodeText.char_mem_ofString]
    exact ⟨⟨⟨⟨hends.1.not_mem hx, hfree⟩, hbetween.not_mem hx⟩, hfree⟩, hends.2.not_mem hx⟩
  · have hends : NoControls "@Router ".toList ∧ NoControls " [".toList ∧ NoControls "]".toList := by decide
    simp only [List.mem_append, not_or, CodeText.char_mem_ofString]
    exact ⟨⟨⟨⟨hends.1.not_mem hx, hpath⟩, hends.2.1.not_mem hx⟩, hmethod⟩, hends.2.2.not_mem hx⟩

end

/-- The texts that a block is made of. -/
structure Parts (scheme : CodeText) (type : RequestType) (name receiver : String) (route : Route) : Prop where
  scheme : scheme.OneLine
  type : type.KnownKinds
  name : Text.OneLine name.toList
  receiver : Text.OneLine receiver.toList
  path : route.path.OneLine
  method : route.method.OneLine

theorem oneLine_lines (h : Parts scheme type name receiver route) :
    ∀ l ∈ lines scheme type name receiver route, l.OneLine := fun l hl =>
  ⟨not_mem_lines (by decide) h.scheme.1 h.type h.name.1 h.receiver.1 h.path.1 h.method.1 l hl,
    not_mem_lines (by decide) h.scheme.2 h.type h.name.2 h.receiver.2 h.path.2 h.method.2 l hl⟩

/-! ## The block as comments -/

/-- The lines of a block behind the two slashes of their comments. -/
def commentTexts (scheme : CodeText) (type : RequestType) (name receiver : String) (route : Route) :
    List (List UInt8) :=
  (lines scheme type name receiver route).map fun l => 0x20 :: l.utf8

theorem utf8_ofList (chars : List Char) : Text.utf8 (String.ofList chars) = chars.flatMap String.utf8EncodeChar := by
  rw [Text.utf8, String.toList_ofList]

/-- **A block is line comments.** -/
theorem utf8_block (scheme : CodeText) (type : RequestType) (name receiver : String) (route : Route) :
    (block scheme type name receiver route).utf8 =
      commentLines (commentTexts scheme type name receiver route) := by
  have hjoin : ∀ ls : List CodeText, CodeText.utf8 (ls.flatMap commentLine) =
      commentLines (ls.map fun l => 0x20 :: l.utf8) := by
    intro ls
    induction ls with
    | nil => rfl
    | cons l ls ih =>
      have hslashes : Text.utf8 "// " = [0x2F, 0x2F, 0x20] := by decide
      have hnewline : Text.utf8 "\n" = [0x0A] := by decide
      rw [List.flatMap_cons, CodeText.utf8_append, ih, List.map_cons, commentLines_cons, commentLine,
        CodeText.utf8_append, CodeText.utf8_append, CodeText.utf8_ofString, CodeText.utf8_ofString, hslashes, hnewline]
      rfl
  exact hjoin _

/-! ### Surrogates -/

theorem scalar_flatMap_commentLine (ls : List CodeText) :
    CodeText.Scalar (ls.flatMap commentLine) ↔ ∀ l ∈ ls, l.Scalar := by
  induction ls with
  | nil => simp [CodeText.Scalar]
  | cons l ls ih =>
    rw [List.flatMap_cons, CodeText.scalar_append, ih, List.forall_mem_cons, commentLine]
    simp

theorem scalar_paramLine (type : RequestType) (name : CodeText) : (paramLine type name).Scalar ↔ name.Scalar := by
  unfold paramLine
  simp

/-- **Which blocks have bytes**: those without surrogates in the route and in the scheme, as far as they stand in
the block. -/
theorem scalar_block (scheme : CodeText) (type : RequestType) (name receiver : String) (route : Route) :
    (block scheme type name receiver route).Scalar ↔
      route.path.Scalar ∧ route.method.Scalar ∧ (route.secured = true → scheme.Scalar) := by
  have hparams : route.path.Scalar → ∀ p ∈ Route.placeholders route.path, (paramLine type p).Scalar := by
    intro hpath p hp
    obtain ⟨front, back, hsplit⟩ := append_of_placeholder hp
    rw [hsplit, CodeText.scalar_append, CodeText.scalar_append] at hpath
    exact (scalar_paramLine type p).2 hpath.2.1
  have hscheme : (∀ l ∈ (if route.secured then ["@Security " ++ scheme] else []), CodeText.Scalar l) ↔
      (route.secured = true → scheme.Scalar) := by
    cases route.secured <;> simp
  unfold block lines paramLines
  rw [scalar_flatMap_commentLine]
  simp only [List.forall_mem_append, List.forall_mem_singleton, hscheme, CodeText.scalar_append,
    CodeText.scalar_ofString, List.forall_mem_map, true_and, and_true, implies_true]
  constructor
  · rintro ⟨⟨-, hsecured⟩, hpath, hmethod⟩
    exact ⟨hpath, hmethod, hsecured⟩
  · rintro ⟨hpath, hmethod, hsecured⟩
    exact ⟨⟨hparams hpath, hsecured⟩, hpath, hmethod⟩

/-! ### The marker -/

theorem decodeLossyFrom_read (read : List Char) (skip : Nat) (bytes : List UInt8) :
    Text.decodeLossyFrom read skip bytes = read.reverse ++ Text.decodeLossyFrom [] skip bytes := by
  induction bytes generalizing read skip with
  | nil => cases skip <;> simp [Text.decodeLossyFrom]
  | cons b bytes ih =>
    cases skip with
    | succ skip => exact ih read skip
    | zero =>
      rw [Text.decodeLossyFrom, Text.decodeLossyFrom]
      split
      · rename_i c more _
        rw [ih (c :: read), ih [c]]
        simp
      · rename_i more _
        rw [ih (_ :: read), ih [_]]
        simp

theorem routeLine_marked (rest : CodeText) :
    Text.occursIn routeMarker (textOf (lineText (0x20 :: CodeText.utf8 ("@Router " ++ rest)))).toList = true := by
  have hlead : Text.utf8 "@Router " = [0x40, 0x52, 0x6F, 0x75, 0x74, 0x65, 0x72, 0x20] := by decide
  have hread : Text.decodeLossyFrom [] 0 (lineText (0x20 :: ([0x40, 0x52, 0x6F, 0x75, 0x74, 0x65, 0x72, 0x20] ++
      rest.utf8))) = Text.decodeLossyFrom "// @Router ".toList.reverse 0 rest.utf8 := by
    rfl
  rw [CodeText.utf8_append, CodeText.utf8_ofString, hlead, textOf, String.toList_ofList, Text.decodeLossy, hread,
    decodeLossyFrom_read]
  exact Text.occursIn_iff.2 ⟨['/', '/', ' '], _, rfl⟩

/-- **A block documents a handler**: it is read back as line comments, and the last one names a
route. -/
theorem docLines_block (h : Parts scheme type name receiver route) :
    DocLines (commentTexts scheme type name receiver route) := by
  refine ⟨fun l hl => ?_, ?_⟩
  · obtain ⟨line, hline, rfl⟩ := List.mem_map.1 hl
    exact (plain_utf8 (oneLine_lines h line hline)).cons (by decide)
  · unfold commentTexts lines
    rw [List.map_append]
    generalize hfront : List.map _ (_ ++ _) = front
    have hne : front ≠ [] := by
      rw [← hfront]
      simp
    refine ⟨front.dropLast, front.getLast hne, _, ?_, routeLine_marked (route.path ++ " [" ++ route.method ++ "]")⟩
    have hsplit := List.dropLast_concat_getLast hne
    rw [← List.singleton_append (l := [_]), ← List.append_assoc, hsplit]
    simp [List.append_assoc]

end DocBlock

end RouteDoc
