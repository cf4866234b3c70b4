/-
What the tags of a structure bind.

A tag of the usual form is pairs of a key and a quoted value with blanks between
them, and one would read it by key. What runs looks for `uri:"` and `binding:"`
anywhere in the text of the tag. Such a search finds the value of every key that
ends in the word, and where a value ends in the word and a colon, the closing
quote of that value opens what it takes for another one (`valuesBehind_text`).
In a tag without such keys and values the search reads by key
(`Tag.found_of_plain`), and the parameters of a structure follow from the tags of
its fields either way (`ofFields_tags`).
-/
import Mathlib.Data.List.TakeWhile
import RouteDoc.Proofs.Keyed
import RouteDoc.Proofs.Text.CodeTexts
import RouteDoc.RequestType

namespace RouteDoc

/-! ## Tags -/

/-- A pair of a tag: a key and its value. -/
structure TagPair where
  key : List Char
  value : List Char
  key_ne_nil : key ≠ []
  key_free : ∀ c ∈ [' ', ':', '"', '\x60'], c ∉ key
  value_free : ∀ c ∈ ['"', '\\', '\x60'], c ∉ value

/-- The pair as it stands in a tag. -/
def TagPair.text (p : TagPair) : List Char := p.key ++ ':' :: '"' :: (p.value ++ ['"'])

theorem TagPair.quote_key (p : TagPair) : '"' ∉ p.key := p.key_free _ (by decide)

theorem TagPair.quote_value (p : TagPair) : '"' ∉ p.value := p.value_free _ (by decide)

/-- A tag of the usual form: pairs of different keys. -/
structure Tag where
  pairs : List TagPair
  distinct : (pairs.map TagPair.key).Nodup

namespace Tag

/-- The tag as a raw string. -/
def text (t : Tag) : List Char := '\x60' :: (Text.joinWith [' '] (t.pairs.map TagPair.text) ++ ['\x60'])

/-- The value of a key. -/
def value? (t : Tag) (key : List Char) : Option (List Char) :=
  (t.pairs.find? fun p => p.key == key).map TagPair.value

/-- What stands quoted behind a word and a colon in the text of pairs: the value of a key that ends in the
word, and behind a value that ends in the word and a colon the text up to the next value. -/
def foundIn (word : List Char) : List TagPair → List (List Char)
  | [] => []
  | p :: ps =>
    (if word <:+ p.key then [p.value] else []) ++
      ((if word ++ [':'] <:+ p.value then (ps.head?.map fun q => ' ' :: (q.key ++ [':'])).toList else []) ++
        foundIn word ps)

def found (t : Tag) (word : List Char) : List (List Char) := foundIn word t.pairs

/-- No key ends in the word but the word itself, and no value in front of another pair ends in the word
and a colon. -/
structure Plain (word : List Char) (ps : List TagPair) : Prop where
  keys : ∀ p ∈ ps, word <:+ p.key → p.key = word
  values : ∀ p ∈ ps.dropLast, ¬word ++ [':'] <:+ p.value

instance (word : List Char) (ps : List TagPair) : Decidable (Plain word ps) :=
  decidable_of_iff ((∀ p ∈ ps, word <:+ p.key → p.key = word) ∧ ∀ p ∈ ps.dropLast, ¬word ++ [':'] <:+ p.value)
    ⟨fun h => ⟨h.1, h.2⟩, fun h => ⟨h.keys, h.values⟩⟩

theorem Plain.tail {word : List Char} {p : TagPair} {ps : List TagPair} (h : Plain word (p :: ps)) : Plain word ps where
  keys q hq := h.keys q (List.mem_cons_of_mem p hq)
  values q hq := by
    cases ps with
    | nil => cases hq
    | cons p' ps => exact h.values q (List.mem_cons_of_mem p hq)

theorem Plain.head_value {word : List Char} {p q : TagPair} {ps : List TagPair} (h : Plain word (p :: q :: ps)) :
    ¬word ++ [':'] <:+ p.value :=
  h.values p List.mem_cons_self

/-- **A search reads a plain tag by key.** -/
theorem found_of_plain {t : Tag} {word : List Char} (h : Plain word t.pairs) : t.found word = (t.value? word).toList := by
  obtain ⟨pairs, distinct⟩ := t
  unfold found value?
  induction pairs with
  | nil => rfl
  | cons p ps ih =>
    have hlater : (if word ++ [':'] <:+ p.value then (ps.head?.map fun q => ' ' :: (q.key ++ [':'])).toList else []) =
        [] := by
      cases ps with
      | nil => simp
      | cons q ps => rw [if_neg h.head_value]
    rw [foundIn, hlater, List.nil_append, ih (List.nodup_cons.1 distinct).2 h.tail, List.find?_cons]
    by_cases hkey : p.key = word
    · -- The key is there once, so what is behind this pair adds nothing.
      have hnone : ps.find? (fun q => q.key == word) = none := by
        refine List.find?_eq_none.2 fun q hq heq => ?_
        exact (List.nodup_cons.1 distinct).1 (List.mem_map.2 ⟨q, hq, (beq_iff_eq.1 heq).trans hkey.symm⟩)
      simp [hkey, hnone]
    · have hends : ¬word <:+ p.key := fun hends => hkey (h.keys p List.mem_cons_self hends)
      have hne : (p.key == word) = false := by simpa using hkey
      rw [if_neg hends, List.nil_append, hne]

end Tag

/-! ## Searching the text of a tag -/

namespace RequestType

variable {word x y : List Char}

/-- What stands quoted behind a word and a colon, wherever these stand in a text. -/
def valuesBehind (word : List Char) : List Char → List (List Char)
  | [] => []
  | c :: rest =>
    (if Text.startsWith (word ++ [':', '"']) (c :: rest) then
      (untilQuote ((c :: rest).drop (word.length + 2))).toList
    else []) ++ valuesBehind word rest

theorem uriIn_eq (s : List Char) : uriIn s = (valuesBehind "uri".toList s).find? fun value => !value.isEmpty := by
  induction s with
  | nil => rfl
  | cons c rest ih =>
    rw [uriIn, valuesBehind, List.find?_append, ← ih]
    congr 1
    show (if Text.startsWith "uri:\"".toList (c :: rest) then (untilQuote (rest.drop 4)).filter _ else none) =
      List.find? _ (if Text.startsWith "uri:\"".toList (c :: rest) then (untilQuote (rest.drop 4)).toList else [])
    split
    · cases untilQuote (rest.drop 4) with
      | none => rfl
      | some value => cases value <;> rfl
    · rfl

theorem requiredIn_eq (s : List Char) :
    requiredIn s = (valuesBehind "binding".toList s).any (Text.occursIn "required".toList) := by
  induction s with
  | nil => rfl
  | cons c rest ih =>
    rw [requiredIn, valuesBehind, List.any_append, ← ih]
    congr 1
    show (Text.startsWith "binding:\"".toList (c :: rest) && _) =
      (if Text.startsWith "binding:\"".toList (c :: rest) then (untilQuote (rest.drop 8)).toList else []).any _
    cases Text.startsWith "binding:\"".toList (c :: rest) with
    | false => rfl
    | true => cases untilQuote (rest.drop 8) <;> simp

theorem untilQuote_of_notMem (hx : '"' ∉ x) : untilQuote x = none := by
  have htake : x.takeWhile (· != '"') = x :=
    List.takeWhile_eq_self_iff.2 fun c hc => bne_iff_ne.2 (ne_of_mem_of_not_mem hc hx)
  simp [untilQuote, htake]

theorem takeWhile_quote (hx : '"' ∉ x) (y : List Char) : (x ++ '"' :: y).takeWhile (· != '"') = x := by
  rw [List.takeWhile_append_of_pos fun c hc => bne_iff_ne.2 (ne_of_mem_of_not_mem hc hx),
    List.takeWhile_cons_of_neg (by decide), List.append_nil]

theorem untilQuote_quote (hx : '"' ∉ x) (y : List Char) : untilQuote (x ++ '"' :: y) = some x := by
  simp [untilQuote, takeWhile_quote hx]

/-- Where the first quote of a text stands. -/
theorem startsWith_quote (hword : '"' ∉ word) (hx : '"' ∉ x) (y : List Char) :
    Text.startsWith (word ++ [':', '"']) (x ++ '"' :: y) = true ↔ word ++ [':'] = x := by
  have hlead : word ++ [':', '"'] = word ++ [':'] ++ ['"'] := by simp
  have hfree : '"' ∉ word ++ [':'] := by simp [hword]
  rw [Text.startsWith, List.isPrefixOf_iff_prefix, hlead]
  constructor
  · intro ⟨z, hz⟩
    rw [List.append_assoc, List.singleton_append] at hz
    rw [← takeWhile_quote hfree z, hz, takeWhile_quote hx]
  · intro heq
    exact ⟨y, by simp [← heq]⟩

theorem valuesBehind_of_notMem (hx : '"' ∉ x) : valuesBehind word x = [] := by
  induction x with
  | nil => rfl
  | cons c x ih =>
    have hstarts : ¬Text.startsWith (word ++ [':', '"']) (c :: x) = true := by
      rw [Text.startsWith, List.isPrefixOf_iff_prefix]
      exact fun hlead => hx (hlead.subset (by simp))
    rw [valuesBehind, if_neg hstarts, List.nil_append, ih (List.not_mem_of_not_mem_cons hx)]

/-- A stretch of text up to a quote adds what is behind the quote, where it ends in the word and a colon. -/
theorem valuesBehind_quote (hword : '"' ∉ word) (hx : '"' ∉ x) (y : List Char) :
    valuesBehind word (x ++ '"' :: y) =
      (if word ++ [':'] <:+ x then (untilQuote y).toList else []) ++ valuesBehind word y := by
  induction x with
  | nil =>
    have hstarts := startsWith_quote hword List.not_mem_nil y
    simp only [List.nil_append, List.append_eq_nil_iff, List.cons_ne_nil, and_false, iff_false] at hstarts
    have hends : ¬word ++ [':'] <:+ [] := by simp
    rw [List.nil_append, valuesBehind, if_neg hstarts, if_neg hends]
  | cons c x ih =>
    have hstarts := startsWith_quote hword hx y
    rw [List.cons_append] at hstarts
    rw [List.cons_append, valuesBehind, ih (List.not_mem_of_not_mem_cons hx)]
    by_cases heq : word ++ [':'] = c :: x
    · have hdrop : (c :: (x ++ '"' :: y)).drop (word.length + 2) = y := by
        have hlength : word.length + 2 = (c :: (x ++ ['"'])).length := by
          have := congrArg List.length heq
          simp only [List.length_append, List.length_cons, List.length_nil] at this ⊢
          omega
        rw [hlength, show c :: (x ++ '"' :: y) = (c :: (x ++ ['"'])) ++ y by simp, List.drop_left]
      have hends : ¬word ++ [':'] <:+ x := fun hends => by
        have := hends.length_le
        rw [heq, List.length_cons] at this
        omega
      rw [if_pos (hstarts.2 heq), hdrop, if_neg hends, List.nil_append, if_pos (heq ▸ List.suffix_rfl)]
    · have hends : word ++ [':'] <:+ c :: x ↔ word ++ [':'] <:+ x := by
        rw [List.suffix_cons_iff, or_iff_right heq]
      simp only [if_neg (fun h => heq (hstarts.1 h)), hends, List.nil_append]

/-- A pair in the text of a tag, between what is in front of its key and what is behind it. -/
theorem valuesBehind_pair {sep : Char} (hword : '"' ∉ word) (hsep : sep ∉ word) (hquote : sep ≠ '"') (p : TagPair)
    (y : List Char) :
    valuesBehind word (sep :: (p.text ++ y)) =
      (if word <:+ p.key then [p.value] else []) ++
        ((if word ++ [':'] <:+ p.value then (untilQuote y).toList else []) ++ valuesBehind word y) := by
  have hfree : '"' ∉ sep :: (p.key ++ [':']) := by simp [hquote.symm, p.quote_key]
  have htext : sep :: (p.text ++ y) = sep :: (p.key ++ [':']) ++ '"' :: (p.value ++ '"' :: y) := by simp [TagPair.text]
  have hends : word ++ [':'] <:+ sep :: (p.key ++ [':']) ↔ word <:+ p.key := by
    rw [← List.cons_append, List.suffix_append_inj_of_length_eq rfl, and_iff_left rfl, List.suffix_cons_iff]
    refine or_iff_right fun heq => hsep ?_
    rw [heq]
    exact List.mem_cons_self
  rw [htext, valuesBehind_quote hword hfree, valuesBehind_quote hword p.quote_value, untilQuote_quote p.quote_value]
  simp only [hends, Option.toList_some]

theorem valuesBehind_pairs (hword : ∀ c ∈ [' ', '"', '\x60'], c ∉ word) {sep : Char} (hsep : sep ∉ word) (hquote : sep ≠ '"')
    (ps : List TagPair) :
    valuesBehind word (sep :: (Text.joinWith [' '] (ps.map TagPair.text) ++ ['\x60'])) = Tag.foundIn word ps := by
  have hfree : '"' ∉ word := hword _ (by decide)
  induction ps generalizing sep with
  | nil => exact valuesBehind_of_notMem (by simp [Text.joinWith, hquote.symm])
  | cons p ps ih =>
    cases ps with
    | nil =>
      rw [List.map_singleton, Text.joinWith, valuesBehind_pair hfree hsep hquote, valuesBehind_of_notMem (by decide)]
      simp [Tag.foundIn, untilQuote_of_notMem (show '"' ∉ ['\x60'] by decide)]
    | cons q ps =>
      have hjoin : Text.joinWith [' '] ((p :: q :: ps).map TagPair.text) ++ ['\x60'] =
          p.text ++ ' ' :: (Text.joinWith [' '] ((q :: ps).map TagPair.text) ++ ['\x60']) := by
        simp [Text.joinWith]
      have hnext : untilQuote (' ' :: (Text.joinWith [' '] ((q :: ps).map TagPair.text) ++ ['\x60'])) =
          some (' ' :: (q.key ++ [':'])) := by
        obtain ⟨rest, hrest⟩ : ∃ rest, Text.joinWith [' '] ((q :: ps).map TagPair.text) = q.text ++ rest := by
          cases ps with
          | nil => exact ⟨[], by simp [Text.joinWith]⟩
          | cons q' ps => exact ⟨_, List.append_assoc _ _ _⟩
        have hstretch : '"' ∉ ' ' :: (q.key ++ [':']) := by simp [q.quote_key]
        rw [hrest, ← untilQuote_quote hstretch (q.value ++ '"' :: (rest ++ ['\x60']))]
        simp [TagPair.text]
      rw [hjoin, valuesBehind_pair hfree hsep hquote, ih (hword _ (by decide)) (by decide), hnext, Tag.foundIn]
      rfl

/-- **What a search finds in a tag.** -/
theorem valuesBehind_text (hword : ∀ c ∈ [' ', '"', '\x60'], c ∉ word) (t : Tag) :
    valuesBehind word t.text = t.found word :=
  valuesBehind_pairs hword (hword _ (by decide)) (by decide) t.pairs

/-! ## Kinds -/

/-- A type that is one of these names and nothing else. -/
def IsNamed (names : List String) (type : Go.TypeExpr) : Prop :=
  ∃ text, type = .name text ∧ Go.textOf text ∈ names

theorem kindOf_name (text : List UInt8) (kind : String) :
    kindOf (.name text) = kind ↔
      (Go.textOf text, kind) ∈ kinds ∨ kind = "string" ∧ Go.textOf text ∉ kinds.map Prod.fst := by
  simp only [kindOf]
  generalize Go.textOf text = name
  by_cases hmem : name ∈ kinds.map Prod.fst
  · obtain ⟨e, he, rfl⟩ := List.mem_map.1 hmem
    have hfind : ∀ e ∈ kinds, (kinds.find? fun e' => e'.1 == e.1) = some e := by decide
    have honce : ∀ e ∈ kinds, ∀ e' ∈ kinds, e'.1 = e.1 → e'.2 = e.2 := by decide
    simp only [hfind e he, hmem, not_true_eq_false, and_false, or_false]
    exact ⟨fun heq => heq ▸ he, fun hkind => (honce e he _ hkind rfl).symm⟩
  · have hnone : (kinds.find? fun e => e.1 == name) = none := by
      refine List.find?_eq_none.2 fun e he heq => hmem ?_
      exact List.mem_map.2 ⟨e, he, by simpa using heq⟩
    have hpair : (name, kind) ∉ kinds := fun h => hmem (List.mem_map_of_mem h)
    simp only [hnone, hmem, hpair, not_false_eq_true, and_true, false_or]
    exact eq_comm

/-- **The kind of a type.** Only the name of a listed type alone has another kind than a text. -/
theorem kindOf_eq_iff (type : Go.TypeExpr) :
    (kindOf type = "integer" ↔ IsNamed ["int", "int32", "int64", "uint", "uint32", "uint64"] type) ∧
    (kindOf type = "number" ↔ IsNamed ["float32", "float64"] type) ∧
    (kindOf type = "boolean" ↔ IsNamed ["bool"] type) ∧
    (kindOf type = "string" ↔ ¬IsNamed (kinds.map Prod.fst) type) := by
  cases type with
  | name text => simp [kindOf_name, IsNamed, kinds]
  | _ => simp [kindOf, IsNamed]

end RequestType

/-! ## Fields -/

/-- A field of a structure; its tag, where it has one, is of the usual form. -/
structure TaggedField where
  type : Go.TypeExpr
  tag : Option Tag
  bytes : Option (List UInt8)
  reads : bytes.map Text.decodeLossy = tag.map Tag.text

namespace TaggedField

/-- The field as it is declared. -/
def declared (f : TaggedField) : Go.TypeExpr × Option (List UInt8) := (f.type, f.bytes)

variable (read : Tag → List Char → List (List Char)) (f : TaggedField)

/-- The name that a field is bound to, by a way to read the values of a key from a tag: the first one
of `uri` that is not empty. -/
def name? : Option String :=
  f.tag.bind fun t => ((read t "uri".toList).find? fun value => !value.isEmpty).map String.ofList

/-- Whether a field is required: whether a value of `binding` mentions it. -/
def required : Bool := f.tag.any fun t => (read t "binding".toList).any (Text.occursIn "required".toList)

/-- The parameter that a field binds to a name. -/
def paramOf (name : String) : PathParam := ⟨name, RequestType.kindOf f.type, f.required read⟩

theorem param?_declared : RequestType.param? f.type f.bytes = (f.name? Tag.found).map (f.paramOf Tag.found) := by
  obtain ⟨type, tag, bytes, reads⟩ := f
  cases tag with
  | none =>
    obtain rfl : bytes = none := by simpa using reads
    rfl
  | some t =>
    obtain ⟨b, rfl, hb⟩ := Option.map_eq_some_iff.1 reads
    have huri : RequestType.uriIn t.text = (t.found "uri".toList).find? fun value => !value.isEmpty := by
      rw [RequestType.uriIn_eq, RequestType.valuesBehind_text (by simp)]
    have hrequired : RequestType.requiredIn t.text =
        (t.found "binding".toList).any (Text.occursIn "required".toList) := by
      rw [RequestType.requiredIn_eq, RequestType.valuesBehind_text (by simp)]
    show (do let name ← RequestType.uriIn (Text.decodeLossy b); return (⟨_, _, _⟩ : PathParam)) =
      (((t.found "uri".toList).find? fun value => !value.isEmpty).map String.ofList).map _
    rw [hb, huri, hrequired]
    cases (t.found "uri".toList).find? fun value => !value.isEmpty <;> rfl

end TaggedField

/-- What a request type binds is what its fields bind by a way to read their tags: a name is there when a field
has it, the last such field says what is known of it, and the first one gives its place. -/
structure RequestType.Binds (read : Tag → List Char → List (List Char)) (fields : List TaggedField) (t : RequestType) :
    Prop where
  names : ∀ n, n ∈ t.map Prod.fst ↔ ∃ f ∈ fields, f.name? read = some n
  last : ∀ n : String, t.get? n = ((fields.filter fun f => f.name? read == some n).getLast?).map fun f => f.paramOf read n
  order : (t.map Prod.fst).Pairwise fun a b =>
    (fields.filterMap fun f => f.name? read).idxOf a < (fields.filterMap fun f => f.name? read).idxOf b

namespace RequestType

theorem get?_ofString (t : RequestType) (n : String) : t.get? n = Keyed.get? t n := by
  simp only [get?, Keyed.get?, CodeText.ofString_beq]

/-- What a field binds, by its name. -/
def bound? (read : Tag → List Char → List (List Char)) (f : TaggedField) : Option (String × PathParam) :=
  (f.name? read).map fun n => (n, f.paramOf read n)

theorem binds_ofEntries (read : Tag → List Char → List (List Char)) (fields : List TaggedField) :
    Binds read fields (Keyed.ofEntries (fields.filterMap (bound? read))) := by
  have hnames : (fields.filterMap (bound? read)).map Prod.fst = fields.filterMap fun f => f.name? read := by
    rw [List.map_filterMap]
    refine List.filterMap_congr fun f _ => ?_
    rw [bound?, Option.map_map]
    exact Option.map_id'
  refine ⟨fun n => ?_, fun n => ?_, ?_⟩
  · refine (Keyed.mem_keys_ofEntries _ n).trans ?_
    rw [hnames, List.mem_filterMap]
  · refine (get?_ofString _ n).trans ((Keyed.get?_ofEntries _ n).trans ?_)
    have hfilter : (fields.filterMap (bound? read)).filter (fun e => e.1 == n) =
        (fields.filter fun f => f.name? read == some n).map fun f => (n, f.paramOf read n) := by
      rw [List.filter_filterMap, ← List.filterMap_eq_map, List.filterMap_filter]
      refine List.filterMap_congr fun f _ => ?_
      unfold bound?
      cases hname : f.name? read with
      | none => simp
      | some m =>
        by_cases hm : m = n
        · simp [hm]
        · simp [hm]
    rw [hfilter, List.getLast?_map, Option.map_map]
    rfl
  · rw [← hnames]
    exact Keyed.keys_ofEntries_order _

theorem ofFields_eq_ofEntries (fields : List TaggedField) :
    ofFields (fields.map TaggedField.declared) = Keyed.ofEntries (fields.filterMap (bound? Tag.found)) := by
  have hentries : fields.filterMap (bound? Tag.found) =
      (fields.filterMap fun f => param? f.type f.bytes).map fun p => (p.name, p) := by
    rw [List.map_filterMap]
    refine List.filterMap_congr fun f _ => ?_
    rw [TaggedField.param?_declared, Option.map_map]
    rfl
  rw [hentries, Keyed.ofEntries, List.foldl_map, ofFields, List.filterMap_map]
  rfl

/-- The value of a key, where a tag has it. -/
abbrev byKey (t : Tag) (key : List Char) : List (List Char) := (t.value? key).toList

/-- **What the tags of a structure bind.** A structure binds what a search for the two words finds in the
tags of its fields, and where the tags are plain for both words that is what they say by key. -/
theorem ofFields_tags (fields : List TaggedField) :
    Binds Tag.found fields (ofFields (fields.map TaggedField.declared)) ∧
    ((∀ f ∈ fields, ∀ t ∈ f.tag, Tag.Plain "uri".toList t.pairs ∧ Tag.Plain "binding".toList t.pairs) →
      Binds byKey fields (ofFields (fields.map TaggedField.declared))) ∧
    ∀ type : Go.TypeExpr,
      (kindOf type = "integer" ↔ IsNamed ["int", "int32", "int64", "uint", "uint32", "uint64"] type) ∧
      (kindOf type = "number" ↔ IsNamed ["float32", "float64"] type) ∧ (kindOf type = "boolean" ↔ IsNamed ["bool"] type) ∧
      (kindOf type = "string" ↔ ¬IsNamed (kinds.map Prod.fst) type) := by
  rw [ofFields_eq_ofEntries]
  refine ⟨binds_ofEntries Tag.found fields, fun hplain => ?_, kindOf_eq_iff⟩
  have hentries : fields.filterMap (bound? Tag.found) = fields.filterMap (bound? byKey) := by
    refine List.filterMap_congr fun f hf => ?_
    unfold bound? TaggedField.paramOf TaggedField.name? TaggedField.required
    cases htag : f.tag with
    | none => rfl
    | some t =>
      obtain ⟨huri, hbinding⟩ := hplain f hf t htag
      simp only [Option.bind_some, Option.any_some, Tag.found_of_plain huri, Tag.found_of_plain hbinding]
  rw [hentries]
  exact binds_ofEntries byKey fields

/-- Three fields, of which the first and the last are bound to the same name. -/
def twiceBound : List TaggedField :=
  [⟨.name (Text.utf8 "string"),
      some ⟨[⟨"json".toList, "uri".toList, by decide, by simp, by simp⟩,
        ⟨"uri".toList, "id".toList, by decide, by simp, by simp⟩,
        ⟨"binding".toList, "required".toList, by decide, by simp, by simp⟩], by decide⟩,
      some (Text.utf8 "`json:\"uri\" uri:\"id\" binding:\"required\"`"), by decide +kernel⟩,
    ⟨.name (Text.utf8 "bool"),
      some ⟨[⟨"binding".toList, "min=1,required".toList, by decide, by simp, by simp⟩,
        ⟨"uri".toList, "on".toList, by decide, by simp, by simp⟩], by decide⟩,
      some (Text.utf8 "`binding:\"min=1,required\" uri:\"on\"`"), by decide +kernel⟩,
    ⟨.name (Text.utf8 "int64"), some ⟨[⟨"uri".toList, "id".toList, by decide, by simp, by simp⟩], by decide⟩,
      some (Text.utf8 "`uri:\"id\"`"), by decide +kernel⟩]

theorem ofFields_tags_twiceBound :
    (ofFields (twiceBound.map TaggedField.declared)).get? "id" = some ⟨"id", "integer", false⟩ ∧
    (ofFields (twiceBound.map TaggedField.declared)).get? "on" = some ⟨"on", "boolean", true⟩ ∧
    (ofFields (twiceBound.map TaggedField.declared)).map Prod.fst = ["id", "on"] := by
  obtain ⟨-, hplain, -⟩ := ofFields_tags twiceBound
  have hbinds := hplain (by decide +kernel)
  exact ⟨(hbinds.last "id").trans (by decide +kernel), (hbinds.last "on").trans (by decide +kernel), by decide +kernel⟩

/-- A field whose tag has no key `uri`, but one that ends so. -/
def strayKeyField : TaggedField :=
  ⟨.name (Text.utf8 "int"), some ⟨[⟨"muri".toList, "x".toList, by decide, by simp, by simp⟩], by decide⟩,
    some (Text.utf8 "`muri:\"x\"`"), by decide +kernel⟩

/-- A field whose tag has a value that ends in `uri:` in front of its key `uri`. -/
def strayValueField : TaggedField :=
  ⟨.name (Text.utf8 "int"),
    some ⟨[⟨"json".toList, "uri:".toList, by decide, by simp, by simp⟩,
      ⟨"uri".toList, "id".toList, by decide, by simp, by simp⟩], by decide⟩,
    some (Text.utf8 "`json:\"uri:\" uri:\"id\"`"), by decide +kernel⟩

/-- **Other keys and values get in the way.** A field without the key `uri` is bound all the same, and one with
it to a text that is no value of its tag. -/
theorem ofFields_stray :
    strayKeyField.name? byKey = none ∧ strayValueField.name? byKey = some "id" ∧
    ofFields [strayKeyField.declared] = [("x", ⟨"x", "integer", false⟩)] ∧
    ofFields [strayValueField.declared] = [(" uri:", ⟨" uri:", "integer", false⟩)] ∧
    ¬Binds byKey [strayKeyField] (ofFields [strayKeyField.declared]) ∧
    ¬Binds byKey [strayValueField] (ofFields [strayValueField.declared]) := by
  have hkey : ofFields [strayKeyField.declared] = [("x", ⟨"x", "integer", false⟩)] := by decide +kernel
  have hvalue : ofFields [strayValueField.declared] = [(" uri:", ⟨" uri:", "integer", false⟩)] := by decide +kernel
  refine ⟨by decide, by decide +kernel, hkey, hvalue, fun h => ?_, fun h => ?_⟩
  · have hlast := h.last "x"
    rw [hkey] at hlast
    exact absurd hlast (by decide +kernel)
  · have hlast := h.last "id"
    rw [hvalue] at hlast
    exact absurd hlast (by decide +kernel)

end RequestType

end RouteDoc
