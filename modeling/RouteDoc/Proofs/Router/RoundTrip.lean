/-
Registrations written down and read again.

A router text is registrations with other text between them. Where that text has
no quote in it and does not run into the group of the next registration, reading
gives back the registrations that were written (`sitesFrom_routerText`): a call
that starts in the text between would have to end its group there too, since its
first quote is that of the next registration. So the table is the one that the
registrations make in order (`parseRoutes_routerText`).
-/
import Mathlib.Data.List.Basic
import RouteDoc.Proofs.Router.Scanning

namespace RouteDoc.Route

variable {g : Groups} {before : Option Char} {c : Char} {filler b rest : List Char} {site r : CallSite}

/-- A text that a registration may follow: it has no quote, and no word at its end. -/
structure Filler (f : List Char) : Prop where
  quote : '"' ∉ f
  edge : ∀ d ∈ f.getLast?, Text.isWord d = false

instance (f : List Char) : Decidable (Filler f) :=
  decidable_of_iff ('"' ∉ f ∧ f.getLast?.all (fun d => !Text.isWord d) = true)
    ⟨fun ⟨h1, h2⟩ => ⟨h1, by simpa [Option.all_eq_true] using h2⟩,
      fun h => ⟨h.quote, by simpa [Option.all_eq_true] using h.edge⟩⟩

/-- Registrations, each with the text in front of it, and the text behind the last one. -/
def routerText : List (List Char × CallSite) → List Char → List Char
  | [], last => last
  | x :: rs, last => x.1 ++ (x.2.text ++ routerText rs last)

/-! ## The part of a call in front of its quote -/

/-- What stands in front of the quote that opens the pattern. -/
def CallSite.opening (s : CallSite) : List Char := s.group ++ '.' :: (s.verb.text ++ '(' :: s.blank1)

theorem CallSite.text_opening (s : CallSite) : ∃ t, s.text = s.opening ++ '"' :: t :=
  ⟨_, by simp only [text, opening, List.append_assoc, List.cons_append]; rfl⟩

theorem CallSite.quote_mem_text (s : CallSite) : '"' ∈ s.text := by
  obtain ⟨t, ht⟩ := s.text_opening
  simp [ht]

theorem not_mem_of_isWord {s : List Char} (h : IsWord s) (hc : Text.isAsciiWord c = false) : c ∉ s := by
  intro hmem
  rw [h.2 c hmem] at hc
  cases hc

theorem not_mem_blanks {s : List Char} (h : ∀ c ∈ s, Text.isBlank c = true) (hc : Text.isBlank c = false) :
    c ∉ s := by
  intro hmem
  rw [h c hmem] at hc
  cases hc

theorem CallSite.Proper.quote_not_mem_opening (hg : g.Proper) (h : site.Proper g) : '"' ∉ site.opening := by
  have hgroup := not_mem_of_isWord (h.isWord_group hg) (c := '"') (by decide)
  have hblank := not_mem_blanks h.blank1 (c := '"') (by decide +kernel)
  have hverb : '"' ∉ site.verb.text := by cases site.verb <;> decide
  simp [opening, hgroup, hblank, hverb]

theorem CallSite.Proper.dot_not_mem (hg : g.Proper) (h : site.Proper g) :
    '.' ∉ site.group ∧ '.' ∉ site.verb.text ++ '(' :: site.blank1 := by
  have hgroup := not_mem_of_isWord (h.isWord_group hg) (c := '.') (by decide)
  have hblank := not_mem_blanks h.blank1 (c := '.') (by decide +kernel)
  have hverb : '.' ∉ site.verb.text := by cases site.verb <;> decide
  exact ⟨hgroup, by simp [hblank, hverb]⟩

/-! ## The text between registrations -/

/-- A call that starts in front of a registration, with no quote between, has a longer group. -/
theorem group_eq_of_starts (hg : g.Proper) (hr : r.Proper g) (hquote : '"' ∉ b)
    (h : Starts g before (b ++ (r.text ++ rest)) site) : site.group = b ++ r.group := by
  obtain ⟨t, ht⟩ := site.text_opening
  obtain ⟨t', ht'⟩ := r.text_opening
  obtain ⟨u, hu⟩ := h.text
  have hopening : site.opening = b ++ r.opening := by
    have hall : ∀ {s : List Char}, '"' ∉ s → ∀ c ∈ s, (c != '"') = true := by
      intro s hs c hc
      rw [bne_iff_ne]
      rintro rfl
      exact hs hc
    have hrun := (takeWhile_run ('"' :: (t ++ u)) (hall (h.proper.quote_not_mem_opening hg)) (by simp)).1
    have hboth : '"' ∉ b ++ r.opening := by simp [hquote, hr.quote_not_mem_opening hg]
    have hrun' := (takeWhile_run ('"' :: (t' ++ rest)) (hall hboth) (by simp)).1
    rw [← hrun, ← hrun']
    congr 1
    simpa [ht, ht'] using hu
  -- The only dot in front of the quote stands behind the group.
  obtain ⟨hgroup, hbehind⟩ := h.proper.dot_not_mem hg
  rw [CallSite.opening, CallSite.opening, ← List.append_assoc, List.append_cons_inj_of_notMem hgroup hbehind]
    at hopening
  exact hopening.1

theorem Filler.suffix (h : Filler filler) (hsuffix : c :: b <:+ filler) : Filler (c :: b) := by
  obtain ⟨a, rfl⟩ := hsuffix
  refine ⟨fun hmem => h.quote (List.mem_append_right a hmem), ?_⟩
  have hedge := h.edge
  rwa [List.getLast?_append_cons] at hedge

/-- No call starts in a text that ends a word in front of a registration. -/
theorem siteHere_filler (hg : g.Proper) (hr : r.Proper g) (hfiller : Filler (c :: b)) :
    siteHere g before c (b ++ (r.text ++ rest)) = none := by
  rw [Option.eq_none_iff_forall_ne_some]
  intro site hsite
  rw [siteHere_eq_some_iff hg] at hsite
  have hgroup := group_eq_of_starts hg hr hfiller.quote hsite
  have hlast := List.getLast?_eq_some_getLast (List.cons_ne_nil c b)
  have hword := (hsite.proper.isWord_group hg).2 ((c :: b).getLast (List.cons_ne_nil c b))
    (by rw [hgroup]; exact List.mem_append_left _ (List.getLast_mem _))
  have hend := hfiller.edge _ hlast
  rw [isWord_of_isAsciiWord hword] at hend
  cases hend

/-- A text in which no call starts is passed. -/
theorem sitesFrom_pass (before : Option Char) (filler rest : List Char)
    (h : ∀ c b before, c :: b <:+ filler → siteHere g before c (b ++ rest) = none) :
    sitesFrom g before 0 (filler ++ rest) = sitesFrom g (filler.getLast?.or before) 0 rest := by
  induction filler generalizing before with
  | nil => rfl
  | cons c b ih =>
    rw [List.cons_append, sitesFrom_none (h c b before (List.suffix_refl _)),
      ih (some c) fun d b' before hd => h d b' before (hd.trans (List.suffix_cons c b)), List.getLast?_cons]
    cases b.getLast? <;> rfl

/-- What is skipped does not count. -/
theorem sitesFrom_skip (s : List Char) :
    sitesFrom g before s.length (s ++ rest) = sitesFrom g (s.getLast?.or before) 0 rest := by
  induction s generalizing before with
  | nil => rfl
  | cons c s ih =>
    rw [List.cons_append, List.length_cons, sitesFrom, ih, List.getLast?_cons]
    cases s.getLast? <;> rfl

/-- A call that starts here is read, and reading goes on behind it. -/
theorem sitesFrom_text (hg : g.Proper) (hsite : site.Proper g) (hedge : ∀ b ∈ before, Text.isWord b = false) :
    sitesFrom g before 0 (site.text ++ rest) = site :: sitesFrom g (some ')') 0 rest := by
  obtain ⟨c, s, hs⟩ := List.exists_cons_of_ne_nil site.text_ne_nil
  have hhere : siteHere g before c (s ++ rest) = some site := by
    rw [siteHere_eq_some_iff hg]
    exact ⟨hsite, by rw [hs]; exact List.prefix_append _ _, hedge⟩
  have hlast : s.getLast?.or (some c) = some ')' := by
    have h := site.getLast?_text
    rw [hs, List.getLast?_cons] at h
    rw [← h]
    cases s.getLast? <;> rfl
  rw [hs, List.cons_append, sitesFrom_some hhere, hs, List.length_cons, Nat.add_sub_cancel, sitesFrom_skip, hlast]

/-! ## Whole texts -/

/-- **Reading gives back what was written.** -/
theorem sitesFrom_routerText (hg : g.Proper) {rs : List (List Char × CallSite)} {last : List Char}
    (hrs : ∀ x ∈ rs, Filler x.1 ∧ x.2.Proper g) (hlast : '"' ∉ last)
    (hedge : ∀ d ∈ before, Text.isWord d = false) :
    sitesFrom g before 0 (routerText rs last) = rs.map Prod.snd := by
  induction rs generalizing before with
  | nil =>
    have hpass := sitesFrom_pass (g := g) before last [] fun c b before hsuffix => by
      rw [Option.eq_none_iff_forall_ne_some]
      intro site hsite
      rw [siteHere_eq_some_iff hg, List.append_nil] at hsite
      exact hlast (hsuffix.subset (hsite.text.subset site.quote_mem_text))
    rw [List.append_nil] at hpass
    rw [routerText, hpass]
    rfl
  | cons x rs ih =>
    obtain ⟨⟨hfiller, hproper⟩, hrest⟩ := List.forall_mem_cons.1 hrs
    have hpass := sitesFrom_pass before x.1 (x.2.text ++ routerText rs last)
      fun c b before hsuffix => siteHere_filler hg hproper (hfiller.suffix hsuffix)
    have hstart : ∀ d ∈ x.1.getLast?.or before, Text.isWord d = false := by
      intro d hd
      cases hx : x.1.getLast? with
      | none =>
        rw [hx] at hd
        exact hedge d hd
      | some e =>
        rw [hx] at hd
        exact hfiller.edge d (hx ▸ hd)
    rw [routerText, hpass, sitesFrom_text hg hproper hstart, ih hrest (by simp; decide +kernel)]
    rfl

theorem foldl_insert_eq (g : Groups) (rs : List (List Char × CallSite)) :
    RouteTable.ofEntries ((rs.map Prod.snd).map fun s => (String.ofList s.handler, s.route g)) =
      rs.foldl (fun t x => RouteTable.insert t (String.ofList x.2.handler)
        ⟨canonicalPath (String.ofList x.2.pattern), Text.lowerString (String.ofList x.2.verb.text),
          String.ofList x.2.handler, decide (x.2.group = g.authorized.toList)⟩) [] := by
  rw [RouteTable.ofEntries, List.map_map, List.foldl_map]
  simp only [Function.comp_apply, CallSite.route_eq]

/-- **Registrations survive being written down.** Of two groups with different names, registrations with
fillers between them are the calls that are read; the table is what they make in order, and each is for the
group it was written with. -/
theorem parseRoutes_routerText (hg : g.Proper) (hne : g.anonymous ≠ g.authorized)
    (rs : List (List Char × CallSite)) (last : List Char) (hrs : ∀ x ∈ rs, Filler x.1 ∧ x.2.Proper g)
    (hlast : '"' ∉ last) :
    sites g (routerText rs last) = rs.map Prod.snd ∧
    parseRoutes g (String.ofList (routerText rs last)) =
      rs.foldl (fun t x => RouteTable.insert t (String.ofList x.2.handler)
        ⟨canonicalPath (String.ofList x.2.pattern), Text.lowerString (String.ofList x.2.verb.text),
          String.ofList x.2.handler, decide (x.2.group = g.authorized.toList)⟩) [] ∧
    ∀ x ∈ rs, ((x.2.route g).secured = true ↔ x.2.group = g.authorized.toList) ∧
      ((x.2.route g).secured = false ↔ x.2.group = g.anonymous.toList) := by
  have hsites : sites g (routerText rs last) = rs.map Prod.snd := sitesFrom_routerText hg hrs hlast (by simp)
  refine ⟨hsites, ?_, fun x hx => ?_⟩
  · rw [parseRoutes, String.toList_ofList, hsites, foldl_insert_eq]
  · have hother : g.anonymous.toList ≠ g.authorized.toList := fun h => hne (String.toList_inj.1 h)
    rw [CallSite.route_eq, decide_eq_true_iff, decide_eq_false_iff_not]
    refine ⟨Iff.rfl, fun h => (hrs x hx).2.group.resolve_right h, ?_⟩
    intro hgroup
    rw [hgroup]
    exact hother

/-- Of the two names one starts with the other, and a pattern looks like a call. -/
theorem parseRoutes_routerText_nested :
    Groups.Proper ⟨"apis", "api"⟩ ∧
    parseRoutes ⟨"apis", "api"⟩ (String.ofList (routerText
      [("// ".toList, ⟨"apis".toList, .get, [], "/:id api.PUT(".toList, " ".toList, "h".toList, "Show".toList, []⟩),
        ([], ⟨"api".toList, .post, "\n".toList, "/s".toList, [], "h".toList, "Make".toList, "\n".toList⟩)]
      " api.GET( apis".toList)) =
      [("Show", ⟨"/\x7bid api.PUT(\x7d", "get", "Show", true⟩), ("Make", ⟨"/s", "post", "Make", false⟩)] := by
  refine ⟨by decide, ?_⟩
  rw [(parseRoutes_routerText (g := ⟨"apis", "api"⟩) (by decide) (by decide) _ _ (by decide +kernel)
    (by decide)).2.1]
  decide +kernel

end RouteDoc.Route
