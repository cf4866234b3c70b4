/-
The grammar of a registration.

A call is well formed when its group is one of the router's, its blanks are
blank, its pattern is something without a quote, and its receiver and its
handler are words (`CallSite.Proper`). Reading the start of a text finds a call
exactly where the text of a well formed one stands there (`siteAt_eq_some_iff`):
each part ends where the next one cannot go on, so a text starts with at most
one call.
-/
import Mathlib.Data.List.TakeWhile
import RouteDoc.Route.Registration

namespace RouteDoc.Route

/-- Some ASCII letters, digits and underscores, and nothing else. -/
def IsWord (s : List Char) : Prop := s ≠ [] ∧ ∀ c ∈ s, Text.isAsciiWord c = true

instance (s : List Char) : Decidable (IsWord s) :=
  decidable_of_iff (s ≠ [] ∧ s.all Text.isAsciiWord = true) (and_congr_right fun _ => List.all_eq_true)

/-- Groups that are named by words. -/
structure Groups.Proper (g : Groups) : Prop where
  authorized : IsWord g.authorized.toList
  anonymous : IsWord g.anonymous.toList

instance (g : Groups) : Decidable g.Proper :=
  decidable_of_iff (IsWord g.authorized.toList ∧ IsWord g.anonymous.toList)
    ⟨fun h => ⟨h.1, h.2⟩, fun h => ⟨h.authorized, h.anonymous⟩⟩

namespace CallSite

/-- Arguments with parts of the right sort. -/
structure ProperArguments (s : CallSite) : Prop where
  blank1 : ∀ c ∈ s.blank1, Text.isBlank c = true
  pattern : s.pattern ≠ []
  quote : '"' ∉ s.pattern
  blank2 : ∀ c ∈ s.blank2, Text.isBlank c = true
  receiver : IsWord s.receiver
  handler : IsWord s.handler
  blank3 : ∀ c ∈ s.blank3, Text.isBlank c = true

/-- A call on one of the groups, with parts of the right sort. -/
structure Proper (g : Groups) (s : CallSite) : Prop extends ProperArguments s where
  group : s.group = g.anonymous.toList ∨ s.group = g.authorized.toList

instance (g : Groups) (s : CallSite) : Decidable (s.Proper g) :=
  decidable_of_iff (s.blank1.all Text.isBlank = true ∧ s.pattern ≠ [] ∧ '"' ∉ s.pattern ∧
      s.blank2.all Text.isBlank = true ∧ IsWord s.receiver ∧ IsWord s.handler ∧ s.blank3.all Text.isBlank = true ∧
      (s.group = g.anonymous.toList ∨ s.group = g.authorized.toList))
    ⟨fun ⟨h1, h2, h3, h4, h5, h6, h7, h8⟩ =>
        ⟨⟨List.all_eq_true.1 h1, h2, h3, List.all_eq_true.1 h4, h5, h6, List.all_eq_true.1 h7⟩, h8⟩,
      fun h => ⟨List.all_eq_true.2 h.blank1, h.pattern, h.quote, List.all_eq_true.2 h.blank2, h.receiver, h.handler,
        List.all_eq_true.2 h.blank3, h.group⟩⟩

/-- What stands between the parentheses, with the closing one. -/
def arguments (s : CallSite) : List Char :=
  s.blank1 ++ '"' :: (s.pattern ++ '"' :: ',' ::
    (s.blank2 ++ s.receiver ++ '.' :: (s.handler ++ s.blank3 ++ [')'])))

theorem text_eq (s : CallSite) : s.text = s.group ++ '.' :: (s.verb.text ++ '(' :: s.arguments) := rfl

theorem text_ne_nil (s : CallSite) : s.text ≠ [] := by
  rw [text_eq]
  simp

theorem getLast?_text (s : CallSite) : s.text.getLast? = some ')' := by
  simp [text, List.getLast?_append, List.getLast?_cons]

end CallSite

variable {g : Groups} {group lead s rest xs : List Char} {verb : Verb} {site site' : CallSite} {c : Char}

/-! ## Characters -/

theorem isAsciiWord_lt (h : Text.isAsciiWord c = true) : c.toNat < 0x80 := by
  simp only [Text.isAsciiWord, Text.isAsciiLower, Text.isAsciiUpper, Text.isAsciiDigit, Bool.or_eq_true,
    Bool.and_eq_true, decide_eq_true_eq, beq_iff_eq, Char.le_def, UInt32.le_iff_toNat_le] at h
  rcases h with ((h | h) | h) | rfl
  · exact Nat.lt_of_le_of_lt h.2 (by decide)
  · exact Nat.lt_of_le_of_lt h.2 (by decide)
  · exact Nat.lt_of_le_of_lt h.2 (by decide)
  · decide

theorem isWord_of_isAsciiWord (h : Text.isAsciiWord c = true) : Text.isWord c = true := by
  rw [Text.isWord, if_pos (isAsciiWord_lt h)]
  exact h

theorem isBlank_eq_false_of_isAsciiWord (h : Text.isAsciiWord c = true) : Text.isBlank c = false := by
  have hall : ∀ n < 0x80, Text.isAsciiWord (Char.ofNat n) = true → Text.isBlank (Char.ofNat n) = false := by
    decide +kernel
  have hc := hall c.toNat (isAsciiWord_lt h)
  rw [Char.ofNat_toNat] at hc
  exact hc h

/-! ## Parts of a text -/

theorem after?_eq_some_iff : after? lead s = some rest ↔ s = lead ++ rest := by
  unfold after? Text.startsWith
  constructor
  · intro h
    split at h
    · rename_i hlead
      obtain ⟨t, rfl⟩ := List.isPrefixOf_iff_prefix.1 hlead
      rw [List.drop_left] at h
      rw [Option.some.inj h]
    · cases h
  · rintro rfl
    rw [if_pos (List.isPrefixOf_iff_prefix.2 (List.prefix_append lead rest)), List.drop_left]

/-- A run of characters of a class ends where a character of another class stands. -/
theorem takeWhile_run {p : Char → Bool} (rest : List Char) (hrun : ∀ c ∈ xs, p c = true)
    (hrest : ∀ c ∈ rest.head?, p c = false) :
    (xs ++ rest).takeWhile p = xs ∧ (xs ++ rest).dropWhile p = rest := by
  rw [List.takeWhile_append_of_pos hrun, List.dropWhile_append_of_pos hrun]
  cases rest with
  | nil => simp
  | cons c rest => simp [hrest c (by simp)]

theorem verbAt_eq_some_iff : verbAt s = some (verb, rest) ↔ s = verb.text ++ '(' :: rest := by
  constructor
  · intro h
    obtain ⟨v, -, hv⟩ := List.exists_of_findSome?_eq_some h
    obtain ⟨t, ht, heq⟩ := Option.map_eq_some_iff.1 hv
    obtain ⟨rfl, rfl⟩ := Prod.mk.inj heq
    simpa using after?_eq_some_iff.1 ht
  · rintro rfl
    cases verb <;> simp [verbAt, Verb.all, Verb.text, after?, Text.startsWith]

/-! ## Calls -/

/-- A text is cut where a run of characters of a class ends. -/
theorem eq_run_append {p : Char → Bool} (h : s.dropWhile p = rest) : s = s.takeWhile p ++ rest := by
  rw [← h, List.takeWhile_append_dropWhile]

/-- The arguments that were read are what the text starts with. -/
theorem proper_of_argumentsAt (h : argumentsAt group verb s = some site) :
    site.group = group ∧ site.verb = verb ∧ site.ProperArguments ∧ site.arguments <+: s := by
  simp only [argumentsAt, Option.bind_eq_bind, Option.bind_eq_some_iff, Option.pure_def] at h
  obtain ⟨s1, h1, h⟩ := h
  split at h
  · simp at h
  rename_i hpattern
  obtain ⟨s2, h2, h⟩ := Option.bind_eq_some_iff.1 h
  split at h
  · simp at h
  rename_i hreceiver
  obtain ⟨s3, h3, h⟩ := Option.bind_eq_some_iff.1 h
  split at h
  · simp at h
  rename_i hhandler
  obtain ⟨s4, h4, h⟩ := Option.bind_eq_some_iff.1 h
  obtain rfl := Option.some.inj h
  rw [List.isEmpty_iff] at hpattern hreceiver hhandler
  refine ⟨rfl, rfl, ⟨fun _ => List.mem_takeWhile_imp, hpattern, fun hq => ?_, fun _ => List.mem_takeWhile_imp,
    ⟨hreceiver, fun _ => List.mem_takeWhile_imp⟩, ⟨hhandler, fun _ => List.mem_takeWhile_imp⟩,
    fun _ => List.mem_takeWhile_imp⟩, s4, ?_⟩
  · simpa using List.mem_takeWhile_imp hq
  · have e1 := eq_run_append (after?_eq_some_iff.1 h1)
    have e2 := eq_run_append (after?_eq_some_iff.1 h2)
    have e3 := eq_run_append (after?_eq_some_iff.1 h3)
    have e4 := eq_run_append (after?_eq_some_iff.1 h4)
    have e2' := (List.takeWhile_append_dropWhile (p := Text.isBlank) (l := s2)).symm
    have e3' := (List.takeWhile_append_dropWhile (p := Text.isAsciiWord) (l := s3)).symm
    simp only [CallSite.arguments, List.append_assoc, List.cons_append, List.nil_append] at e1 e2 e3 e4 ⊢
    rw [← e4, ← e3', ← e3, ← e2', ← e2, ← e1]

/-- Arguments in front of any text are read as they are. -/
theorem argumentsAt_arguments (h : site.ProperArguments) (rest : List Char) :
    argumentsAt site.group site.verb (site.arguments ++ rest) = some site := by
  have hquote : ∀ c ∈ site.pattern, (c != '"') = true := by
    intro c hc
    rw [bne_iff_ne]
    rintro rfl
    exact h.quote hc
  have hreceiver : ∀ c ∈ (site.receiver ++ '.' :: (site.handler ++ (site.blank3 ++ ')' :: rest))).head?,
      Text.isBlank c = false := by
    obtain ⟨x, xs, hx⟩ := List.exists_cons_of_ne_nil h.receiver.1
    have hword := h.receiver.2 x (hx ▸ List.mem_cons_self)
    simpa [hx] using isBlank_eq_false_of_isAsciiWord hword
  have hclose : ∀ c ∈ (site.blank3 ++ ')' :: rest).head?, Text.isAsciiWord c = false := by
    intro c hc
    have hblank : c = ')' ∨ Text.isBlank c = true := by
      cases hlist : site.blank3 with
      | nil => exact .inl (by simpa [hlist] using hc.symm)
      | cons x xs =>
        obtain rfl : x = c := by simpa [hlist] using hc
        exact .inr (h.blank3 x (hlist ▸ List.mem_cons_self))
    rcases hblank with rfl | hblank
    · decide
    · rw [Bool.eq_false_iff]
      intro hword
      rw [isBlank_eq_false_of_isAsciiWord hword] at hblank
      cases hblank
  obtain ⟨t1, d1⟩ := takeWhile_run ('"' :: (site.pattern ++ '"' :: ',' ::
    (site.blank2 ++ (site.receiver ++ '.' :: (site.handler ++ (site.blank3 ++ ')' :: rest))))))
    h.blank1 (by simp; decide)
  obtain ⟨t2, d2⟩ := takeWhile_run ('"' :: ',' ::
    (site.blank2 ++ (site.receiver ++ '.' :: (site.handler ++ (site.blank3 ++ ')' :: rest))))) hquote (by simp)
  obtain ⟨t3, d3⟩ := takeWhile_run _ h.blank2 hreceiver
  obtain ⟨t4, d4⟩ := takeWhile_run ('.' :: (site.handler ++ (site.blank3 ++ ')' :: rest))) h.receiver.2
    (by simp; decide)
  obtain ⟨t5, d5⟩ := takeWhile_run _ h.handler.2 hclose
  obtain ⟨t6, d6⟩ := takeWhile_run (')' :: rest) h.blank3 (by simp; decide)
  have hafter : ∀ lead rest : List Char, after? lead (lead ++ rest) = some rest :=
    fun _ _ => after?_eq_some_iff.2 rfl
  have a1 := fun l => hafter ['"'] l
  have a2 := fun l => hafter ['"', ','] l
  have a3 := fun l => hafter ['.'] l
  have a4 := fun l => hafter [')'] l
  simp only [List.cons_append, List.nil_append] at a1 a2 a3 a4
  have hempty : ∀ {xs : List Char}, xs ≠ [] → xs.isEmpty = false := fun hne => by simpa using hne
  simp only [argumentsAt, CallSite.arguments, List.append_assoc, List.cons_append, List.nil_append, t1, d1, a1,
    Option.bind_eq_bind, Option.bind_some, t2, d2, hempty h.pattern, Bool.false_eq_true, if_false, a2, t3, d3, t4, d4,
    hempty h.receiver.1, a3, t5, d5, hempty h.handler.1, t6, d6, a4, Option.pure_def]

/-- The text of a call starts with its group and its verb. -/
theorem siteOf_eq_some_iff : siteOf group s = some site ↔
    site.group = group ∧ site.ProperArguments ∧ site.text <+: s := by
  unfold siteOf
  simp only [Option.bind_eq_bind, Option.bind_eq_some_iff, after?_eq_some_iff]
  constructor
  · rintro ⟨s1, rfl, ⟨verb, s2⟩, hverb, harguments⟩
    rw [verbAt_eq_some_iff] at hverb
    subst hverb
    obtain ⟨rfl, rfl, hproper, rest, rfl⟩ := proper_of_argumentsAt harguments
    exact ⟨rfl, hproper, rest, by simp [CallSite.text_eq]⟩
  · rintro ⟨rfl, hproper, rest, rfl⟩
    refine ⟨site.verb.text ++ '(' :: (site.arguments ++ rest), by simp [CallSite.text_eq], _,
      verbAt_eq_some_iff.2 rfl, argumentsAt_arguments hproper rest⟩

theorem CallSite.Proper.isWord_group (hg : g.Proper) (h : site.Proper g) : IsWord site.group := by
  rcases h.group with heq | heq
  · exact heq ▸ hg.anonymous
  · exact heq ▸ hg.authorized

/-- The group is the word that the text of a call starts with. -/
theorem takeWhile_of_prefix (hword : IsWord site.group) (h : site.text <+: s) :
    s.takeWhile Text.isAsciiWord = site.group := by
  obtain ⟨rest, rfl⟩ := h
  rw [CallSite.text_eq, List.append_assoc]
  exact (takeWhile_run _ hword.2 (by simp; decide)).1

/-- **The calls that a text starts with** are those whose text stands there. -/
theorem siteAt_eq_some_iff (hg : g.Proper) : siteAt g s = some site ↔ site.Proper g ∧ site.text <+: s := by
  unfold siteAt
  rw [Option.or_eq_some_iff]
  constructor
  · rintro (h | ⟨-, h⟩)
    · obtain ⟨hgroup, hproper, hprefix⟩ := siteOf_eq_some_iff.1 h
      exact ⟨⟨hproper, .inl hgroup⟩, hprefix⟩
    · obtain ⟨hgroup, hproper, hprefix⟩ := siteOf_eq_some_iff.1 h
      exact ⟨⟨hproper, .inr hgroup⟩, hprefix⟩
  · rintro ⟨hproper, hprefix⟩
    have hword := hproper.isWord_group hg
    rcases hproper.group with hgroup | hgroup
    · exact .inl (siteOf_eq_some_iff.2 ⟨hgroup, hproper.toProperArguments, hprefix⟩)
    · have hsite := siteOf_eq_some_iff.2 ⟨hgroup, hproper.toProperArguments, hprefix⟩
      cases hother : siteOf g.anonymous.toList s with
      | none => exact .inr ⟨rfl, hsite⟩
      | some other =>
        -- The text starts with one word only, so the other group has the same name.
        obtain ⟨hgroup', -, hprefix'⟩ := siteOf_eq_some_iff.1 hother
        have hsame : g.anonymous.toList = g.authorized.toList := by
          rw [← hgroup', ← hgroup, ← takeWhile_of_prefix hword hprefix,
            takeWhile_of_prefix (hgroup' ▸ hg.anonymous) hprefix']
        rw [hsame, hsite] at hother
        exact .inl (Option.some.inj hother ▸ rfl)

end RouteDoc.Route
