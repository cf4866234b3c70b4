/-
Paths that names suggest.

The path of a name is a slash, the words of a resource and, where the name
speaks of one resource, a placeholder for its id. The words are never empty and
have single hyphens between them, whatever verbs the name is made of
(`inferPath_wellFormed`).

Verbs are dropped from the front of the words in the order of a table, so a verb
that the table has behind the first one is dropped as well where it comes next in
the name (`inferPath_drops`): two names that differ in such a word share their
path (`inferPath_shared`).
-/
import RouteDoc.Proofs.Naming.Words
import RouteDoc.Proofs.Router.Segments

namespace RouteDoc.Route

variable {name : String}

/-! ## The parts of a path -/

/-- A name that a path can be made of: it is not empty and has no character that separates the parts
of a path. -/
structure Spelled (name : String) : Prop where
  nonempty : name ≠ ""
  free : ∀ c ∈ ['-', '/', '{', '}'], c ∉ name.toList

/-- Letters, digits and underscores of any script spell a name. -/
theorem spelled_of_isWord (hne : name ≠ "") (h : ∀ c ∈ name.toList, Text.isWord c = true) : Spelled name where
  nonempty := hne
  free := by
    have hmarks : (['-', '/', '{', '}'].all fun c => !Text.isWord c) = true := by decide
    intro c hc hmem
    have hmark := List.all_eq_true.1 hmarks c hc
    rw [h c hmem] at hmark
    cases hmark

/-- Words that can name a resource in a path. -/
structure Resource (r : List Char) : Prop where
  nonempty : r ≠ []
  free : ∀ c ∈ ['/', '{', '}'], c ∉ r
  first : r.head? ≠ some '-'
  last : r.getLast? ≠ some '-'
  single : ¬['-', '-'] <:+: r

/-- A name that speaks of one resource, by its id or by a verb that takes one. -/
def NamesOne (name : String) : Prop :=
  "ById".toList <:+: name.toList ∨ ∃ verb ∈ ["Get", "Update", "Delete"], verb.toList <+: name.toList

theorem namesOne_iff : namesOne name = true ↔ NamesOne name := by
  simp [namesOne, NamesOne, nameHas, nameStarts, Text.occursIn_iff, Text.startsWith_iff, or_assoc]

/-- The leads that are dropped from the words of a name, in this order: of a name that lists
something `list-` is dropped once more. -/
def leadsFor (name : String) : List String :=
  if !namesOne name && nameStarts name "List" then pathLeads ++ ["list-"] else pathLeads

/-- The words that name the resource in the path of a name. -/
def resource (name : String) : List Char :=
  let words := dropLeads (leadsFor name) (kebab name)
  if namesOne name then Text.untilText "-by-id".toList words else words

theorem inferPath_eq (name : String) :
    inferPath name = "/" ++ String.ofList (resource name) ++ if namesOne name then "/\x7bid\x7d" else "" := by
  unfold inferPath resource leadsFor
  cases hone : namesOne name with
  | true => simp [dropLeads, resourceWords]
  | false =>
    cases hlists : nameStarts name "List" with
    | true => simp [dropLeads, resourceWords]
    | false => simp [dropLeads, resourceWords]

theorem mem_leadsFor {lead : String} (h : lead ∈ leadsFor name) : lead ∈ pathLeads := by
  unfold leadsFor at h
  split at h
  · rcases List.mem_append.1 h with h | h
    · exact h
    · rw [List.mem_singleton.1 h]
      decide
  · exact h

/-- Dropping leads leaves words with hyphens between them. -/
theorem hyphenated_dropLeads {leads : List String} (hleads : ∀ lead ∈ leads, lead ∈ pathLeads) {s : List Char}
    (hs : Text.Hyphenated s) : Text.Hyphenated (dropLeads leads s) := by
  have hends : ∀ lead ∈ pathLeads, lead.toList.getLast? = some '-' := by decide
  induction leads generalizing s with
  | nil => exact hs
  | cons lead leads ih =>
    obtain ⟨hlead, hleads⟩ := List.forall_mem_cons.1 hleads
    exact ih hleads (hs.dropLeading (hends lead hlead))

theorem resource_sublist (name : String) : (resource name).Sublist (kebab name) := by
  have hwords := (dropLeads_suffix (leadsFor name) (kebab name)).sublist
  unfold resource
  dsimp only
  split
  · exact (Text.untilText_isPrefix _ _).sublist.trans hwords
  · exact hwords

theorem resource_wellFormed (hname : Spelled name) : Resource (resource name) := by
  have hkebab := hyphenated_kebab hname.nonempty (hname.free '-' (by simp))
  have hleads : ∀ lead ∈ leadsFor name, lead ∈ pathLeads := fun lead hlead => mem_leadsFor hlead
  have hwords := hyphenated_dropLeads hleads hkebab
  have hhyphens : Text.Hyphenated (resource name) := by
    unfold resource
    dsimp only
    split
    · exact hwords.untilText _
    · exact hwords
  have hfree : ∀ c ∈ ['/', '{', '}'], c ∉ resource name := by
    have hmarks : (['/', '{', '}'].all fun c => decide (Text.NoImage c ∧ c ≠ '-')) = true := by decide
    intro c hc hmem
    obtain ⟨himage, hhyphen⟩ := of_decide_eq_true (List.all_eq_true.1 hmarks c hc)
    have hname' := hname.free c (List.mem_cons_of_mem _ hc)
    exact not_mem_kebab himage hhyphen hname' ((resource_sublist name).mem hmem)
  exact ⟨hhyphens.ne_nil, hfree, hhyphens.head_ne, hhyphens.getLast_ne, hhyphens.not_double⟩

/-- In front of an id the words do not speak of it once more. -/
theorem not_infix_resource (hone : namesOne name = true) : ¬"-by-id".toList <:+: resource name := by
  unfold resource
  rw [if_pos hone]
  exact Text.not_infix_untilText (by simp) _

theorem placeholders_inferPath (hname : Spelled name) :
    placeholders (inferPath name) = if namesOne name then [↑"id"] else [] := by
  have hopen : .char '{' ∉ CodeText.ofChars ('/' :: resource name) := by
    simp [(resource_wellFormed hname).free '{' (by simp)]
  have htext : (inferPath name : CodeText) =
      CodeText.ofChars ('/' :: resource name) ++ ↑(if namesOne name then "/\x7bid\x7d" else "") := by
    rw [inferPath_eq]
    simp [CodeText.ofString, CodeText.ofChars]
  rw [placeholders, htext, placeholdersFrom_pass hopen]
  cases namesOne name with
  | true => rfl
  | false => rfl

/-- **Suggested paths are well formed.** The path that a name suggests is a slash and the words of a
resource, with a placeholder for the id behind them where the name speaks of one resource. The words are
not empty, have no slash and no brace, and have single hyphens between them. In front of an id they do not
speak of it once more. The placeholders of the path are the id, or none. -/
theorem inferPath_wellFormed (hname : Spelled name) :
    ∃ r, Resource r ∧
      (NamesOne name ∧ inferPath name = "/" ++ String.ofList r ++ "/\x7bid\x7d" ∧ ¬"-by-id".toList <:+: r ∧
          placeholders (inferPath name) = [↑"id"] ∨
        ¬NamesOne name ∧ inferPath name = "/" ++ String.ofList r ∧ placeholders (inferPath name) = []) := by
  refine ⟨resource name, resource_wellFormed hname, ?_⟩
  have hpath := inferPath_eq name
  have hplaceholders := placeholders_inferPath hname
  by_cases hone : namesOne name = true
  · rw [if_pos hone] at hpath hplaceholders
    exact .inl ⟨namesOne_iff.1 hone, hpath, not_infix_resource hone, hplaceholders⟩
  · rw [if_neg hone] at hpath hplaceholders
    rw [String.append_empty] at hpath
    exact .inr ⟨mt namesOne_iff.2 hone, hpath, hplaceholders⟩

theorem inferPath_wellFormed_bareVerbs :
    Spelled "GetListById" ∧ NamesOne "GetListById" ∧ inferPath "GetListById" = "/by-id/\x7bid\x7d" ∧
    ∃ r, Resource r ∧ inferPath "GetListById" = "/" ++ String.ofList r ++ "/\x7bid\x7d" ∧ ¬"-by-id".toList <:+: r := by
  have hname : Spelled "GetListById" := spelled_of_isWord (by decide) (List.all_eq_true.1 (by decide))
  have hone : NamesOne "GetListById" := namesOne_iff.1 (by decide +kernel)
  refine ⟨hname, hone, by decide +kernel, ?_⟩
  obtain ⟨r, hr, ⟨-, hpath, hid, -⟩ | ⟨hnone, -⟩⟩ := inferPath_wellFormed hname
  · exact ⟨r, hr, hpath, hid⟩
  · exact absurd hone hnone

/-! ## Leads that are dropped -/

/-- Drops the one lead that a text starts with. -/
def dropLead (leads : List String) (s : List Char) : List Char :=
  match leads.find? fun lead => Text.startsWith lead.toList s with
  | some lead => Text.dropLeading lead.toList s
  | none => s

/-- Two leads of a table, in its order, one behind the other in front of a text. -/
def TwoLeads (leads : List String) (s : List Char) : Prop :=
  ∃ first second : String, [first, second].Sublist leads ∧ first.toList ++ second.toList <+: s

/-- Leads that are told apart by what they start with. -/
structure Apart (leads : List String) : Prop where
  nonempty : ∀ lead ∈ leads, lead.toList ≠ []
  eq_of_prefix : ∀ a ∈ leads, ∀ b ∈ leads, a.toList <+: b.toList → a = b

theorem Apart.tail {lead : String} {leads : List String} (h : Apart (lead :: leads)) : Apart leads where
  nonempty a ha := h.nonempty a (List.mem_cons_of_mem _ ha)
  eq_of_prefix a ha b hb := h.eq_of_prefix a (List.mem_cons_of_mem _ ha) b (List.mem_cons_of_mem _ hb)

/-- At most one of them stands in front of a text. -/
theorem Apart.unique {leads : List String} (h : Apart leads) {a b : String} (ha : a ∈ leads) (hb : b ∈ leads)
    {s : List Char} (has : a.toList <+: s) (hbs : b.toList <+: s) : a = b := by
  rcases List.prefix_or_prefix_of_prefix has hbs with hab | hba
  · exact h.eq_of_prefix a ha b hb hab
  · exact (h.eq_of_prefix b hb a ha hba).symm

theorem apart_leadsFor (name : String) : Apart (leadsFor name) := by
  have hleads : (∀ lead ∈ pathLeads, lead.toList ≠ []) ∧
      ∀ a ∈ pathLeads, ∀ b ∈ pathLeads, a.toList <+: b.toList → a = b := by decide
  exact ⟨fun lead hlead => hleads.1 lead (mem_leadsFor hlead),
    fun a ha b hb => hleads.2 a (mem_leadsFor ha) b (mem_leadsFor hb)⟩

theorem dropLead_cons_append {lead : String} {rest : List Char} (leads : List String) :
    dropLead (lead :: leads) (lead.toList ++ rest) = rest := by
  have hstarts : Text.startsWith lead.toList (lead.toList ++ rest) = true :=
    Text.startsWith_iff.2 (List.prefix_append _ _)
  rw [dropLead, List.find?_cons, hstarts]
  exact Text.dropLeading_append _ _

theorem dropLead_cons_skip {lead : String} {s : List Char} (leads : List String) (h : ¬lead.toList <+: s) :
    dropLead (lead :: leads) s = dropLead leads s := by
  rw [dropLead, List.find?_cons, Bool.eq_false_iff.2 (mt Text.startsWith_iff.1 h)]
  rfl

/-- A lead that the table has already changes nothing. -/
theorem dropLead_leadsFor (name : String) (s : List Char) : dropLead (leadsFor name) s = dropLead pathLeads s := by
  unfold leadsFor
  split
  · unfold dropLead
    rw [List.find?_append]
    cases hfind : pathLeads.find? fun lead => Text.startsWith lead.toList s with
    | some lead => rfl
    | none =>
      have hlist := List.find?_eq_none.1 hfind "list-" (by decide)
      rw [List.find?_cons, Bool.eq_false_iff.2 hlist]
      rfl
  · rfl

theorem dropLeads_eq_self_iff {leads : List String} (hleads : Apart leads) (s : List Char) :
    dropLeads leads s = s ↔ ∀ lead ∈ leads, ¬lead.toList <+: s := by
  induction leads with
  | nil => simp [dropLeads]
  | cons lead leads ih =>
    rw [List.forall_mem_cons, dropLeads_cons]
    by_cases hstarts : lead.toList <+: s
    · refine iff_of_false (fun heq => ?_) fun h => h.1 hstarts
      obtain ⟨rest, rfl⟩ := hstarts
      rw [Text.dropLeading_append] at heq
      have hlength := (dropLeads_suffix leads rest).length_le
      have hpos := List.length_pos_iff.2 (hleads.nonempty lead List.mem_cons_self)
      rw [heq, List.length_append] at hlength
      omega
    · rw [Text.dropLeading_eq_self hstarts, ih hleads.tail, and_iff_right hstarts]

/-- Dropping leads one after the other drops one, unless another one of the table follows it. -/
theorem dropLeads_eq_iff {leads : List String} (hleads : Apart leads) (s : List Char) :
    dropLeads leads s = dropLead leads s ↔ ¬TwoLeads leads s := by
  induction leads with
  | nil => simp [dropLeads, dropLead, TwoLeads]
  | cons lead leads ih =>
    by_cases hstarts : lead.toList <+: s
    · -- The lead is dropped, and the others are tried on what is behind it.
      obtain ⟨rest, rfl⟩ := hstarts
      rw [dropLeads_cons, Text.dropLeading_append, dropLead_cons_append, dropLeads_eq_self_iff hleads.tail]
      refine ⟨?_, fun h b hb hrest => h ⟨lead, b, .cons_cons _ (List.singleton_sublist.2 hb), ?_⟩⟩
      · rintro h ⟨a, b, hsub, hfront⟩
        obtain rfl : a = lead := hleads.unique (hsub.mem List.mem_cons_self) List.mem_cons_self
          ((List.prefix_append _ _).trans hfront) (List.prefix_append _ _)
        have hb : b ∈ leads := (List.singleton_sublist.1 hsub.of_cons_cons)
        exact h b hb ((List.prefix_append_right_inj _).1 hfront)
      · exact (List.prefix_append_right_inj _).2 hrest
    · have htwo : TwoLeads (lead :: leads) s ↔ TwoLeads leads s := by
        refine exists₂_congr fun a b => and_congr_left fun hfront => ?_
        have hne : a ≠ lead := by
          rintro rfl
          exact hstarts ((List.prefix_append _ _).trans hfront)
        exact ⟨fun hsub => hsub.of_cons_of_ne hne, fun hsub => hsub.cons lead⟩
      rw [dropLeads_cons, Text.dropLeading_eq_self hstarts, dropLead_cons_skip leads hstarts, htwo,
        ih hleads.tail]

/-- Where the words of a name do not speak of an id, none of those that are left are cut off. -/
theorem resource_eq_dropLeads (hid : ¬"-by-id".toList <:+: kebab name) :
    resource name = dropLeads (leadsFor name) (kebab name) := by
  unfold resource
  dsimp only
  split
  · rcases Text.untilText_cases "-by-id".toList (dropLeads (leadsFor name) (kebab name)) with ⟨-, heq⟩ | ⟨rest, hrest⟩
    · exact heq
    · have hinside : "-by-id".toList <:+: dropLeads (leadsFor name) (kebab name) := ⟨_, rest, hrest.symm⟩
      exact absurd (hinside.trans (dropLeads_suffix _ _).isInfix) hid
  · rfl

/-- The words of a resource can be read off its path. -/
theorem resource_of_inferPath (hname : Spelled name) :
    ((inferPath name).toList.drop 1).takeWhile (· != '/') = resource name := by
  have hslash : ∀ c ∈ resource name, (c != '/') = true := by
    intro c hc
    rw [bne_iff_ne]
    rintro rfl
    exact (resource_wellFormed hname).free '/' (by simp) hc
  rw [inferPath_eq]
  simp only [String.toList_append, String.toList_ofList, List.append_assoc]
  change ((resource name) ++ _).takeWhile _ = _
  rw [List.takeWhile_append_of_pos hslash]
  cases namesOne name with
  | true => simp
  | false => simp

/-- **Which verbs are dropped.** Where the words of a name do not speak of an id, its path is a slash and what
is left of the words when leads of the table are dropped from their front, with the placeholder of an id behind
it or not. What is left is the words without their first lead exactly where no other lead of the table follows
that one. Names where none follows have different paths as soon as their words without the first lead differ. -/
theorem inferPath_drops (hname : Spelled name) (hid : ¬"-by-id".toList <:+: kebab name) :
    ∃ (dropped : List String) (r : List Char),
      (NamesOne name ∧ inferPath name = "/" ++ String.ofList r ++ "/\x7bid\x7d" ∨
        ¬NamesOne name ∧ inferPath name = "/" ++ String.ofList r) ∧
      dropped.Sublist (leadsFor name) ∧ kebab name = (dropped.map String.toList).flatten ++ r ∧
      (r = dropLead pathLeads (kebab name) ↔ ¬TwoLeads (leadsFor name) (kebab name)) ∧
      ∀ {name' : String}, Spelled name' → ¬"-by-id".toList <:+: kebab name' → inferPath name = inferPath name' →
        ¬TwoLeads (leadsFor name) (kebab name) → ¬TwoLeads (leadsFor name') (kebab name') →
        dropLead pathLeads (kebab name) = dropLead pathLeads (kebab name') := by
  have hleft : ∀ {n : String}, ¬"-by-id".toList <:+: kebab n →
      (resource n = dropLead pathLeads (kebab n) ↔ ¬TwoLeads (leadsFor n) (kebab n)) := by
    intro n hn
    rw [resource_eq_dropLeads hn, ← dropLead_leadsFor n, dropLeads_eq_iff (apart_leadsFor n)]
  obtain ⟨dropped, hsub, hkebab⟩ := dropLeads_split (leadsFor name) (kebab name)
  rw [← resource_eq_dropLeads hid] at hkebab
  refine ⟨dropped, resource name, ?_, hsub, hkebab, hleft hid, fun hname' hid' hpath htwo htwo' => ?_⟩
  · have hpath := inferPath_eq name
    by_cases hone : namesOne name = true
    · rw [if_pos hone] at hpath
      exact .inl ⟨namesOne_iff.1 hone, hpath⟩
    · rw [if_neg hone, String.append_empty] at hpath
      exact .inr ⟨mt namesOne_iff.2 hone, hpath⟩
  · rw [← (hleft hid).2 htwo, ← (hleft hid').2 htwo', ← resource_of_inferPath hname, ← resource_of_inferPath hname',
      hpath]

theorem inferPath_drops_keptVerb :
    (Spelled "UpdateGetOrder" ∧ ¬"-by-id".toList <:+: kebab "UpdateGetOrder" ∧
      ¬TwoLeads (leadsFor "UpdateGetOrder") (kebab "UpdateGetOrder")) ∧
    (Spelled "DeleteGetOrder" ∧ ¬"-by-id".toList <:+: kebab "DeleteGetOrder" ∧
      ¬TwoLeads (leadsFor "DeleteGetOrder") (kebab "DeleteGetOrder")) ∧
    inferPath "UpdateGetOrder" = "/get-order/\x7bid\x7d" ∧ inferPath "UpdateGetOrder" = inferPath "DeleteGetOrder" ∧
    (∃ (dropped : List String) (r : List Char), dropped.Sublist (leadsFor "UpdateGetOrder") ∧
      kebab "UpdateGetOrder" = (dropped.map String.toList).flatten ++ r ∧ r = "get-order".toList) ∧
    dropLead pathLeads (kebab "UpdateGetOrder") = dropLead pathLeads (kebab "DeleteGetOrder") := by
  have hname : Spelled "UpdateGetOrder" := spelled_of_isWord (by decide) (List.all_eq_true.1 (by decide))
  have hname' : Spelled "DeleteGetOrder" := spelled_of_isWord (by decide) (List.all_eq_true.1 (by decide))
  have hid : ¬"-by-id".toList <:+: kebab "UpdateGetOrder" := by decide +kernel
  have hid' : ¬"-by-id".toList <:+: kebab "DeleteGetOrder" := by decide +kernel
  have htwo : ¬TwoLeads (leadsFor "UpdateGetOrder") (kebab "UpdateGetOrder") :=
    (dropLeads_eq_iff (apart_leadsFor _) _).1 (by decide +kernel)
  have htwo' : ¬TwoLeads (leadsFor "DeleteGetOrder") (kebab "DeleteGetOrder") :=
    (dropLeads_eq_iff (apart_leadsFor _) _).1 (by decide +kernel)
  have hshared : inferPath "UpdateGetOrder" = inferPath "DeleteGetOrder" := by decide +kernel
  obtain ⟨dropped, r, -, hsub, hkebab, hleft, hdiffer⟩ := inferPath_drops hname hid
  refine ⟨⟨hname, hid, htwo⟩, ⟨hname', hid', htwo'⟩, by decide +kernel, hshared, ⟨dropped, r, hsub, hkebab, ?_⟩,
    hdiffer hname' hid' hshared htwo htwo'⟩
  exact (hleft.2 htwo).trans (by decide +kernel)

/-- **A second verb is lost**: the words of `GetListItems` without their verb are `list-items`, and its path is
that of `GetItems`. -/
theorem inferPath_shared :
    (Spelled "GetListItems" ∧ ¬"-by-id".toList <:+: kebab "GetListItems") ∧
    (Spelled "GetItems" ∧ ¬"-by-id".toList <:+: kebab "GetItems") ∧
    kebab "GetListItems" = "get-list-items".toList ∧
    dropLead pathLeads (kebab "GetListItems") = "list-items".toList ∧
    dropLead pathLeads (kebab "GetItems") = "items".toList ∧
    inferPath "GetListItems" = "/items/\x7bid\x7d" ∧ inferPath "GetItems" = "/items/\x7bid\x7d" ∧
    ¬∃ r ∈ [kebab "GetListItems", dropLead pathLeads (kebab "GetListItems")],
      inferPath "GetListItems" = "/" ++ String.ofList r ∨
        inferPath "GetListItems" = "/" ++ String.ofList r ++ "/\x7bid\x7d" := by
  refine ⟨⟨spelled_of_isWord (by decide) (List.all_eq_true.1 (by decide)), by decide +kernel⟩,
    ⟨spelled_of_isWord (by decide) (List.all_eq_true.1 (by decide)), by decide +kernel⟩, by decide +kernel⟩

end RouteDoc.Route
