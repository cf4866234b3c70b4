/-
Where names are split.

A separator without a backslash and without a digit at its start is text in its
template (`read_camelTemplate`). The second character of a boundary is a
capital, so it is not the first one of another: taking the two together passes
no boundary, and rewriting by such a template is `splitCamel`
(`rewriteCamel_parted`). That in turn puts the separator between the words of
the name (`CamelWords.splitCamel`), and there is one way to cut a name into
words (`camelWords_iff`).
-/
import Mathlib.Data.Char
import Mathlib.Data.List.SplitBy
import RouteDoc.DocBlock

namespace RouteDoc

variable {sep s v w : List Char} {a b c : Char} {groups position : Nat}

/-! ## Templates that are text -/

namespace Template

/-- The parts that stand for the characters of a text. -/
def textParts (s : List Char) : List Part := s.map fun c => .text [c]

theorem fill_textParts (s : List Char) (found : List (List Char)) : fill (textParts s) found = s := by
  induction s with
  | nil => rfl
  | cons c s ih => exact congrArg (c :: ·) ih

theorem partsFrom_text (hs : '\\' ∉ s) {rest : List Char} {parts : List Part}
    (h : partsFrom groups 0 (position + s.length) rest = .ok parts) :
    partsFrom groups 0 position (s ++ rest) = .ok (textParts s ++ parts) := by
  induction s generalizing position with
  | nil => exact h
  | cons c s ih =>
    rw [List.mem_cons, not_or] at hs
    have hc : (c == '\\') = false := beq_eq_false_iff_ne.2 (Ne.symm hs.1)
    have hmore : partsFrom groups 0 (position + 1 + s.length) rest = .ok parts := by
      rw [Nat.add_assoc, Nat.add_comm 1]
      exact h
    rw [List.cons_append, partsFrom, hc, ih hs.2 hmore]
    rfl

theorem isOctalDigit_digit (h : isOctalDigit c = true) : Text.isAsciiDigit c = true := by
  simp only [isOctalDigit, Text.isAsciiDigit, Bool.and_eq_true, decide_eq_true_eq] at h ⊢
  exact ⟨h.1, h.2.trans (by decide)⟩

/-- A digit that no other one follows is the number of a group. -/
theorem numberAt_single (hzero : c ≠ '0') (hdigit : Text.isAsciiDigit c = true) (hgroup : number 10 [c] ≤ groups)
    (hs : ∀ x ∈ s.head?, Text.isAsciiDigit x = false) :
    numberAt groups position (c :: s) = .ok (.group (number 10 [c]), 1) := by
  have hstarts : Text.startsWith ['0'] (c :: s) = false := by
    rw [Text.startsWith, List.isPrefixOf_cons_cons, beq_eq_false_iff_ne.2 (Ne.symm hzero), Bool.false_and]
  have hdigits : ((c :: s).take 2).takeWhile Text.isAsciiDigit = [c] := by
    cases s with
    | nil => simp [hdigit]
    | cons x s => simp [hdigit, hs x rfl]
  have hcode : (((c :: s).take 3).takeWhile isOctalDigit).length ≠ 3 := by
    cases s with
    | nil =>
      have hlength : (([c].take 3).takeWhile isOctalDigit).length ≤ 1 := (List.takeWhile_prefix _).length_le
      omega
    | cons x s =>
      have hx : isOctalDigit x = false := by
        rw [Bool.eq_false_iff]
        exact fun hx => by simp [isOctalDigit_digit hx] at hs
      rw [List.take_succ_cons, List.take_succ_cons, List.takeWhile_cons]
      split
      · simp [hx]
      · simp
  simp only [numberAt, hstarts, hdigits, Bool.or_false, beq_iff_eq, hcode, if_false, groupPart, hgroup, if_true]
  rfl

theorem escapeAt_single (hzero : c ≠ '0') (hdigit : Text.isAsciiDigit c = true) (hgroup : number 10 [c] ≤ groups)
    (hs : ∀ x ∈ s.head?, Text.isAsciiDigit x = false) :
    escapeAt groups position (c :: s) = .ok (.group (number 10 [c]), 1) := by
  have hletter : (c == 'g') = false := by
    rw [beq_eq_false_iff_ne]
    rintro rfl
    exact absurd hdigit (by decide)
  rw [escapeAt, hletter, if_neg Bool.false_ne_true, if_pos hdigit]
  exact numberAt_single hzero hdigit hgroup hs

/-- What a separator that is text makes of a boundary: the first group, the separator, the second group. -/
def parted (sep : List Char) : List Part := .group 1 :: (textParts sep ++ [.group 2])

theorem fill_parted (sep : List Char) (a b : Char) :
    fill (parted sep) [[a, b], [a], [b]] = a :: (sep ++ [b]) := by
  have happend : fill (parted sep) [[a, b], [a], [b]] = [a] ++ (fill (textParts sep) [[a, b], [a], [b]] ++ [b]) := by
    simp [fill, parted, Part.fill]
  rw [happend, fill_textParts]
  rfl

end Template

theorem read_camelTemplate (hescape : '\\' ∉ sep) (hfirst : ∀ c ∈ sep.head?, Text.isAsciiDigit c = false) :
    Template.read 2 (camelTemplate sep) = .ok (Template.parted sep) := by
  have hnext : ∀ c ∈ (sep ++ ['\\', '2']).head?, Text.isAsciiDigit c = false := by
    cases sep with
    | nil => exact fun c hc => Option.some.inj hc ▸ rfl
    | cons x sep => exact hfirst
  have hone : Template.escapeAt 2 0 ('1' :: (sep ++ ['\\', '2'])) = .ok (.group 1, 1) :=
    Template.escapeAt_single (by decide) (by decide) (by decide) hnext
  have htwo : Template.partsFrom 2 0 (2 + sep.length) ['\\', '2'] = .ok [.group 2] := by
    have hgroup : Template.escapeAt 2 (2 + sep.length) ['2'] = .ok (.group 2, 1) :=
      Template.escapeAt_single (by decide) (by decide) (by decide) (by simp)
    rw [Template.partsFrom, hgroup]
    rfl
  rw [Template.read, camelTemplate, Template.partsFrom, hone]
  simp only [beq_self_eq_true, if_true, Template.partsFrom]
  rw [Template.partsFrom_text hescape htwo]
  rfl

/-! ## Boundaries -/

/-- A text without a boundary. -/
def Unbroken (s : List Char) : Prop := s.IsChain fun a b => isCamelBoundary a b = false

instance : Decidable (Unbroken s) := inferInstanceAs (Decidable (List.IsChain _ _))

theorem isAsciiUpper_of_boundary (h : isCamelBoundary a b = true) : Text.isAsciiUpper b = true :=
  (Bool.and_eq_true_iff.1 h).2

/-- A capital is not the first character of a boundary. -/
theorem no_boundary_of_upper (hb : Text.isAsciiUpper b = true) (c : Char) : isCamelBoundary b c = false := by
  simp only [Text.isAsciiUpper, Bool.and_eq_true, decide_eq_true_eq] at hb
  have hlower : Text.isAsciiLower b = false := by
    have hlt : b < 'a' := hb.2.trans_lt (by decide)
    rw [Text.isAsciiLower, decide_eq_false hlt.not_ge, Bool.false_and]
  have hdigit : Text.isAsciiDigit b = false := by
    have hlt : '9' < b := lt_of_lt_of_le (by decide) hb.1
    rw [Text.isAsciiDigit, decide_eq_false hlt.not_ge, Bool.and_false]
  rw [isCamelBoundary, hlower, hdigit]
  rfl

theorem splitCamel_boundary (h : isCamelBoundary a b = true) (sep s : List Char) :
    splitCamel sep (a :: b :: s) = a :: (sep ++ splitCamel sep (b :: s)) := by
  rw [splitCamel, if_pos h]

theorem splitCamel_skip (h : isCamelBoundary a b = false) (sep s : List Char) :
    splitCamel sep (a :: b :: s) = a :: splitCamel sep (b :: s) := by
  rw [splitCamel, if_neg (by rw [h]; exact Bool.false_ne_true)]

/-- The first character stays in front. -/
theorem splitCamel_cons (sep : List Char) (a : Char) (s : List Char) : ∃ t, splitCamel sep (a :: s) = a :: t := by
  cases s with
  | nil => exact ⟨[], rfl⟩
  | cons b s =>
    cases h : isCamelBoundary a b with
    | true => exact ⟨_, splitCamel_boundary h sep s⟩
    | false => exact ⟨_, splitCamel_skip h sep s⟩

theorem splitCamel_upper (hb : Text.isAsciiUpper b = true) (sep s : List Char) :
    splitCamel sep (b :: s) = b :: splitCamel sep s := by
  cases s with
  | nil => rfl
  | cons c s => exact splitCamel_skip (no_boundary_of_upper hb c) sep s

/-- Taking the characters of a boundary together passes no other one. -/
theorem rewriteCamel_parted (sep s : List Char) : rewriteCamel (Template.parted sep) s = splitCamel sep s := by
  fun_induction rewriteCamel (Template.parted sep) s with
  | case1 => rfl
  | case2 a => rfl
  | case3 a b s h ih =>
    -- The text goes on behind `b`, while `splitCamel` looks at `b` once more.
    rw [splitCamel_boundary h, splitCamel_upper (isAsciiUpper_of_boundary h), ih, Template.fill_parted,
      List.cons_append, List.append_assoc, List.singleton_append]
  | case4 a b s h ih => rw [splitCamel_skip (Bool.eq_false_iff.2 h), ih]

theorem splitCamel_of_unbroken (h : Unbroken s) (sep : List Char) : splitCamel sep s = s := by
  induction s with
  | nil => rfl
  | cons a s ih =>
    cases s with
    | nil => rfl
    | cons b s =>
      obtain ⟨hab, hs⟩ := List.isChain_cons_cons.1 h
      rw [splitCamel_skip hab, ih hs]

/-- A text with a boundary in its middle is split on either side of it. -/
theorem splitCamel_append (sep : List Char) (hv : v ≠ []) (hw : w ≠ [])
    (h : isCamelBoundary (v.getLast hv) (w.head hw) = true) :
    splitCamel sep (v ++ w) = splitCamel sep v ++ (sep ++ splitCamel sep w) := by
  obtain ⟨b, w, rfl⟩ := List.exists_cons_of_ne_nil hw
  induction v with
  | nil => exact absurd rfl hv
  | cons a v ih =>
    cases v with
    | nil => exact splitCamel_boundary h sep w
    | cons a' v =>
      have hmore := ih (by simp) (by simpa using h)
      rw [List.cons_append] at hmore
      rw [List.cons_append, List.cons_append]
      cases haa : isCamelBoundary a a' with
      | true => rw [splitCamel_boundary haa, splitCamel_boundary haa, hmore]; simp
      | false => rw [splitCamel_skip haa, splitCamel_skip haa, hmore]; simp

/-! ## Words -/

/-- The words of a text: what it is cut into exactly at its boundaries. -/
structure CamelWords (s : List Char) (words : List (List Char)) : Prop where
  flatten : words.flatten = s
  ne_nil : [] ∉ words
  unbroken : ∀ word ∈ words, Unbroken word
  boundary : words.IsChain fun v w => ∃ hv hw, isCamelBoundary (v.getLast hv) (w.head hw) = true

theorem camelWords_iff {words : List (List Char)} :
    CamelWords s words ↔ words = s.splitBy fun a b => !isCamelBoundary a b := by
  rw [eq_comm, List.splitBy_eq_iff]
  simp only [Bool.not_eq_true', Bool.not_eq_false']
  exact ⟨fun h => ⟨h.flatten.symm, h.ne_nil, h.unbroken, h.boundary⟩,
    fun ⟨hflatten, hnil, hunbroken, hboundary⟩ => ⟨hflatten.symm, hnil, hunbroken, hboundary⟩⟩

theorem CamelWords.splitCamel {words : List (List Char)} (h : CamelWords s words) (sep : List Char) :
    RouteDoc.splitCamel sep s = sep.intercalate words := by
  obtain ⟨rfl, hnil, hunbroken, hboundary⟩ := h
  induction words with
  | nil => rfl
  | cons v words ih =>
    have hv : Unbroken v := hunbroken v List.mem_cons_self
    cases words with
    | nil =>
      rw [List.flatten_singleton, splitCamel_of_unbroken hv]
      simp
    | cons w words =>
      obtain ⟨⟨hvne, hwne, hvw⟩, hrest⟩ := List.isChain_cons_cons.1 hboundary
      have hmore := ih (fun hmem => hnil (List.mem_cons_of_mem v hmem))
        (fun u hu => hunbroken u (List.mem_cons_of_mem v hu)) hrest
      obtain ⟨b, w, rfl⟩ := List.exists_cons_of_ne_nil hwne
      have hne : ((b :: w) :: words).flatten ≠ [] := by simp
      rw [List.flatten_cons, splitCamel_append sep hvne hne hvw, hmore, splitCamel_of_unbroken hv,
        List.intercalate_cons_cons, List.append_assoc]

/-- Where the separator is one character that is not in the text, taking it out undoes the splitting. -/
theorem filter_splitCamel (h : c ∉ s) : (splitCamel [c] s).filter (· != c) = s := by
  induction s with
  | nil => rfl
  | cons a s ih =>
    rw [List.mem_cons, not_or] at h
    have ha : (a != c) = true := bne_iff_ne.2 (Ne.symm h.1)
    cases s with
    | nil => simp [splitCamel, ha]
    | cons b s =>
      cases hab : isCamelBoundary a b with
      | true => simp [splitCamel_boundary hab, ha, ih h.2]
      | false => simp [splitCamel_skip hab, ha, ih h.2]

/-! ## Separators -/

/-- A separator that is text in its template, and whose ends make no boundary with any character. -/
structure Separator (sep : List Char) : Prop where
  ne_nil : sep ≠ []
  no_escape : '\\' ∉ sep
  first : ∀ c ∈ sep.head?, Text.isAsciiDigit c = false ∧ Text.isAsciiUpper c = false
  last : ∀ c ∈ sep.getLast?, Text.isAsciiLower c = false ∧ Text.isAsciiDigit c = false

namespace Separator

theorem singleton (hescape : c ≠ '\\') (hlower : Text.isAsciiLower c = false) (hupper : Text.isAsciiUpper c = false)
    (hdigit : Text.isAsciiDigit c = false) : Separator [c] where
  ne_nil := List.cons_ne_nil c []
  no_escape hmem := hescape (List.mem_singleton.1 hmem).symm
  first _ hx := Option.some.inj hx ▸ ⟨hdigit, hupper⟩
  last _ hx := Option.some.inj hx ▸ ⟨hlower, hdigit⟩

theorem no_boundary_first (h : Separator sep) (a : Char) : ∀ b ∈ sep.head?, isCamelBoundary a b = false := by
  intro b hb
  rw [isCamelBoundary, (h.first b hb).2, Bool.and_false]

theorem no_boundary_last (h : Separator sep) (b : Char) : ∀ a ∈ sep.getLast?, isCamelBoundary a b = false := by
  intro a ha
  rw [isCamelBoundary, (h.last a ha).1, (h.last a ha).2]
  rfl

/-- No boundary is left, and none is made. -/
theorem unbroken_splitCamel (h : Separator sep) (hsep : Unbroken sep) (s : List Char) :
    Unbroken (splitCamel sep s) := by
  induction s with
  | nil => exact .nil
  | cons a s ih =>
    cases s with
    | nil => exact .singleton a
    | cons b s =>
      cases hab : isCamelBoundary a b with
      | true =>
        -- New neighbours stand only at the two ends of the separator.
        rw [splitCamel_boundary hab]
        refine List.isChain_cons.2 ⟨fun c hc => ?_, List.isChain_append.2 ⟨hsep, ih, fun c hc d _ => ?_⟩⟩
        · rw [List.head?_append_of_ne_nil _ h.ne_nil] at hc
          exact h.no_boundary_first a c hc
        · exact h.no_boundary_last d c hc
      | false =>
        obtain ⟨t, ht⟩ := splitCamel_cons sep b s
        rw [splitCamel_skip hab]
        rw [ht] at ih ⊢
        exact List.isChain_cons_cons.2 ⟨hab, ih⟩

end Separator

theorem splitWords_eq {sep : String} (hsep : Separator sep.toList) (name : String) :
    splitWords sep name = .ok (splitCamelString sep name) := by
  rw [splitWords, read_camelTemplate hsep.no_escape fun c hc => (hsep.first c hc).1, Except.map,
    rewriteCamel_parted, splitCamelString]

/-- Summaries and suggested paths have the words that the templates of a blank and of a hyphen give. -/
theorem splitWords_summary (name : String) :
    splitWords " " name = .ok (DocBlock.summary name) ∧
      ∃ split, splitWords "-" name = .ok split ∧ Route.kebab name = Text.lower split.toList := by
  have hblank : Separator " ".toList := .singleton (by decide) rfl rfl rfl
  have hhyphen : Separator "-".toList := .singleton (by decide) rfl rfl rfl
  refine ⟨splitWords_eq hblank name, _, splitWords_eq hhyphen name, ?_⟩
  rw [splitCamelString, String.toList_ofList, Route.kebab]
  rfl

/-- **Names are split exactly at their boundaries.** A name has one way to be cut into words, and splitting it
puts the separator between them. Where the separator is one character that the name does not have, taking it
out of the split name gives the name. Where the separator has no boundary itself, splitting again changes
nothing. -/
theorem splitWords_words {sep : String} (hsep : Separator sep.toList) (name : String) :
    ∃ (words : List (List Char)) (split : String),
      (∀ words', CamelWords name.toList words' ↔ words' = words) ∧
      splitWords sep name = .ok split ∧ splitCamelString sep name = split ∧
      split.toList = sep.toList.intercalate words ∧
      (∀ c, sep.toList = [c] → c ∉ name.toList → split.toList.filter (· != c) = name.toList) ∧
      (Unbroken sep.toList → splitWords sep split = .ok split) := by
  have hsplit : (splitCamelString sep name).toList = splitCamel sep.toList name.toList := String.toList_ofList
  refine ⟨_, splitCamelString sep name, fun words' => camelWords_iff, splitWords_eq hsep name, rfl, ?_,
    fun c hc hname => ?_, fun hinside => ?_⟩
  · rw [hsplit]
    exact (camelWords_iff.2 rfl).splitCamel sep.toList
  · rw [hsplit, hc]
    exact filter_splitCamel hname
  · have hunbroken : Unbroken (splitCamelString sep name).toList := by
      rw [hsplit]
      exact hsep.unbroken_splitCamel hinside name.toList
    rw [splitWords_eq hsep, splitCamelString, splitCamel_of_unbroken hunbroken, String.ofList_toList]

theorem splitWords_words_mixedName :
    (Separator "-".toList ∧ Unbroken "-".toList ∧ '-' ∉ "aB1CDéF9Z".toList) ∧
    CamelWords "aB1CDéF9Z".toList ["a".toList, "B1".toList, "CDéF9".toList, "Z".toList] ∧
    splitWords "-" "aB1CDéF9Z" = .ok "a-B1-CDéF9-Z" ∧ splitWords "-" "a-B1-CDéF9-Z" = .ok "a-B1-CDéF9-Z" ∧
    "a-B1-CDéF9-Z".toList.filter (· != '-') = "aB1CDéF9Z".toList := by
  have hsep : Separator "-".toList := .singleton (by decide) rfl rfl rfl
  have hinside : Unbroken "-".toList := by decide
  have hname : '-' ∉ "aB1CDéF9Z".toList := by decide
  obtain ⟨words, split, hwords, hsplit, -, htext, hback, hagain⟩ := splitWords_words hsep "aB1CDéF9Z"
  have hcut : CamelWords "aB1CDéF9Z".toList ["a".toList, "B1".toList, "CDéF9".toList, "Z".toList] :=
    camelWords_iff.2 (by decide)
  obtain rfl := (hwords _).1 hcut
  obtain rfl : split = "a-B1-CDéF9-Z" := String.toList_inj.1 (htext.trans (by decide))
  exact ⟨⟨hsep, hinside, hname⟩, hcut, hsplit, hagain hinside, hback '-' (by decide) hname⟩

/-- A digit at the start of a separator is read as part of the number in front of it. -/
example : splitWords "1" "aB" = .error ⟨.noGroup 11, 1⟩ := rfl

/-- A separator that ends in a small letter makes a boundary wherever it is put. -/
example : splitWords "x" "aB" = .ok "axB" ∧ splitWords "x" "axB" = .ok "axxB" := ⟨rfl, rfl⟩

end RouteDoc
