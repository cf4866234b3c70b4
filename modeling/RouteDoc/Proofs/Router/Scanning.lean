/-
Which registrations of a text count.

The text is read from left to right, and what was read is not read again. So the
calls that are found lie apart and in order, and a call that is not among them
starts inside of one that is (`Scanned`, `scanned_placedFrom`). The table has the
handlers of the calls that are found, each with the route of its last call
(`parseRoutes_scanned`).
-/
import RouteDoc.Proofs.Router.CallSites
import RouteDoc.Proofs.Router.Tables

namespace RouteDoc.Route

variable {g : Groups} {before : Option Char} {c : Char} {source s rest : List Char} {site : CallSite} {n : Nat}

/-! ## Calls and their places -/

/-- A text starts with a call, and what stands before it is no part of a word. -/
structure Starts (g : Groups) (before : Option Char) (s : List Char) (site : CallSite) : Prop where
  proper : site.Proper g
  text : site.text <+: s
  edge : ∀ b ∈ before, Text.isWord b = false

/-- A call stands in a text behind its first `n` characters. -/
def Stands (g : Groups) (source : List Char) (n : Nat) (site : CallSite) : Prop :=
  Starts g (source.take n).getLast? (source.drop n) site

/-- The call that is found at a place. -/
def siteHere (g : Groups) (before : Option Char) (c : Char) (rest : List Char) : Option CallSite :=
  if wordEdge before c then siteAt g (c :: rest) else none

/-- A call is found where one starts. -/
theorem siteHere_eq_some_iff (hg : g.Proper) :
    siteHere g before c rest = some site ↔ Starts g before (c :: rest) site := by
  have hedge : site.Proper g → site.text <+: c :: rest →
      (wordEdge before c = true ↔ ∀ b ∈ before, Text.isWord b = false) := by
    intro hproper htext
    have hword := hproper.isWord_group hg
    have htake := takeWhile_of_prefix hword htext
    have hc : Text.isWord c = true := by
      by_cases hc : Text.isAsciiWord c = true
      · exact isWord_of_isAsciiWord hc
      · rw [List.takeWhile_cons_of_neg hc] at htake
        exact absurd htake.symm hword.1
    cases before with
    | none => simp [wordEdge, hc]
    | some b => simp [wordEdge, hc]
  unfold siteHere
  constructor
  · intro h
    split at h
    · rename_i hbefore
      obtain ⟨hproper, htext⟩ := (siteAt_eq_some_iff hg).1 h
      exact ⟨hproper, htext, (hedge hproper htext).1 hbefore⟩
    · cases h
  · intro h
    rw [if_pos ((hedge h.proper h.text).2 h.edge)]
    exact (siteAt_eq_some_iff hg).2 ⟨h.proper, h.text⟩

theorem sitesFrom_none (h : siteHere g before c rest = none) :
    sitesFrom g before 0 (c :: rest) = sitesFrom g (some c) 0 rest := by
  unfold siteHere at h
  rw [sitesFrom, h]

theorem sitesFrom_some (h : siteHere g before c rest = some site) :
    sitesFrom g before 0 (c :: rest) = site :: sitesFrom g (some c) (site.text.length - 1) rest := by
  unfold siteHere at h
  rw [sitesFrom, h]

/-! ## Reading with places -/

/-- The calls behind `skip` more characters, each with the number of characters in front of it; `n`
characters have been passed. -/
def placedFrom (g : Groups) (before : Option Char) : Nat → Nat → List Char → List (Nat × CallSite)
  | _, _, [] => []
  | skip + 1, n, c :: rest => placedFrom g (some c) skip (n + 1) rest
  | 0, n, c :: rest =>
    match siteHere g before c rest with
    | some site => (n, site) :: placedFrom g (some c) (site.text.length - 1) (n + 1) rest
    | none => placedFrom g (some c) 0 (n + 1) rest

/-- The calls of a text with their places. -/
def placed (g : Groups) (source : List Char) : List (Nat × CallSite) := placedFrom g none 0 0 source

theorem placedFrom_sites (g : Groups) (before : Option Char) (skip n : Nat) (s : List Char) :
    (placedFrom g before skip n s).map Prod.snd = sitesFrom g before skip s := by
  induction s generalizing before skip n with
  | nil => cases skip <;> rfl
  | cons c rest ih =>
    cases skip with
    | succ skip => exact ih _ _ _
    | zero =>
      rw [placedFrom]
      cases h : siteHere g before c rest with
      | none => exact (ih _ _ _).trans (sitesFrom_none h).symm
      | some site => exact (congrArg (site :: ·) (ih _ _ _)).trans (sitesFrom_some h).symm

/-- Calls of a text, of those that start at place `k` or later: they stand there, they lie apart and in
order, and a call that is left out starts inside of one that is not. -/
structure Scanned (g : Groups) (source : List Char) (k : Nat) (found : List (Nat × CallSite)) : Prop where
  stands : ∀ x ∈ found, Stands g source x.1 x.2
  from_ : ∀ x ∈ found, k ≤ x.1
  apart : found.Pairwise fun x y => x.1 + x.2.text.length ≤ y.1
  complete : ∀ n site, k ≤ n → Stands g source n site →
    (n, site) ∈ found ∨ ∃ x ∈ found, x.1 < n ∧ n < x.1 + x.2.text.length

/-- **Reading finds calls** so that no other call could have been found. -/
theorem scanned_placedFrom (hg : g.Proper) (before s : List Char) (skip : Nat) :
    Scanned g (before ++ s) (before.length + skip) (placedFrom g before.getLast? skip before.length s) := by
  induction s generalizing before skip with
  | nil =>
    have hnone : placedFrom g before.getLast? skip before.length [] = [] := by cases skip <;> rfl
    rw [hnone]
    refine ⟨by simp, by simp, .nil, fun n site hn hstands => ?_⟩
    have htext := hstands.text
    rw [List.append_nil, List.drop_eq_nil_of_le (by omega)] at htext
    exact absurd (List.prefix_nil.1 htext) site.text_ne_nil
  | cons c rest ih =>
    have hsource : before ++ c :: rest = before ++ [c] ++ rest := by simp
    have hlength : (before ++ [c]).length = before.length + 1 := by simp
    have hlast : (before ++ [c]).getLast? = some c := by simp
    -- What stands at the place that has been reached.
    have hhere : ∀ site, Stands g (before ++ c :: rest) before.length site ↔
        siteHere g before.getLast? c rest = some site := by
      intro site
      rw [siteHere_eq_some_iff hg, Stands, List.take_left, List.drop_left]
    cases skip with
    | succ skip =>
      have hrest := ih (before ++ [c]) skip
      rw [hlast, hlength, ← hsource] at hrest
      rw [placedFrom]
      rwa [show before.length + (skip + 1) = before.length + 1 + skip by omega]
    | zero =>
      rw [placedFrom]
      cases hsite : siteHere g before.getLast? c rest with
      | none =>
        have hrest := ih (before ++ [c]) 0
        rw [hlast, hlength, ← hsource] at hrest
        refine ⟨hrest.stands, fun x hx => ?_, hrest.apart, fun n site hn hstands => ?_⟩
        · have hfrom := hrest.from_ x hx
          omega
        · by_cases heq : n = before.length
          · subst heq
            rw [hhere, hsite] at hstands
            cases hstands
          · exact hrest.complete n site (by omega) hstands
      | some site =>
        have hpos := List.length_pos_iff.2 site.text_ne_nil
        have hrest := ih (before ++ [c]) (site.text.length - 1)
        rw [hlast, hlength, ← hsource, show before.length + 1 + (site.text.length - 1) =
          before.length + site.text.length by omega] at hrest
        refine ⟨List.forall_mem_cons.2 ⟨(hhere site).2 hsite, hrest.stands⟩,
          List.forall_mem_cons.2 ⟨Nat.le_refl _, fun x hx => ?_⟩, List.pairwise_cons.2 ⟨hrest.from_, hrest.apart⟩,
          fun n site' hn hstands => ?_⟩
        · have hfrom := hrest.from_ x hx
          omega
        · by_cases heq : n = before.length
          · subst heq
            rw [hhere, hsite] at hstands
            rw [Option.some.inj hstands]
            exact .inl List.mem_cons_self
          by_cases hinside : n < before.length + site.text.length
          · exact .inr ⟨_, List.mem_cons_self, by omega, hinside⟩
          · rcases hrest.complete n site' (by omega) hstands with hmem | ⟨x, hx, hoverlap⟩
            · exact .inl (List.mem_cons_of_mem _ hmem)
            · exact .inr ⟨x, List.mem_cons_of_mem _ hx, hoverlap⟩

/-! ## The table -/

theorem Verb.method_eq (v : Verb) : v.method = Text.lowerString (String.ofList v.text) := by
  cases v <;> decide +kernel

theorem CallSite.route_eq (g : Groups) (site : CallSite) : site.route g =
    ⟨canonicalPath (String.ofList site.pattern), Text.lowerString (String.ofList site.verb.text),
      String.ofList site.handler, decide (site.group = g.authorized.toList)⟩ := by
  rw [CallSite.route, canonicalPath, String.toList_ofList, Verb.method_eq, beq_eq_decide]

theorem parseRoutes_eq (g : Groups) (source : String) : parseRoutes g source =
    RouteTable.ofEntries ((placed g source.toList).map fun x => (String.ofList x.2.handler, x.2.route g)) := by
  rw [parseRoutes, sites, ← placedFrom_sites g none 0 0, List.map_map]
  rfl

/-- **What a router registers.** The calls that are read stand in the text, apart and in order, and a call
that is not read starts inside of an earlier one. The handlers of the table are those of the calls that are
read, in the order of their first calls, and the last call of a handler is its route. -/
theorem parseRoutes_scanned (hg : g.Proper) (source : String) :
    (placed g source.toList).map Prod.snd = sites g source.toList ∧
    Scanned g source.toList 0 (placed g source.toList) ∧
    (∀ h, h ∈ (parseRoutes g source).keys ↔ ∃ x ∈ placed g source.toList, String.ofList x.2.handler = h) ∧
    (∀ h, (parseRoutes g source).get? h =
      ((placed g source.toList).filter fun x => String.ofList x.2.handler == h).getLast?.map fun x =>
        ⟨canonicalPath (String.ofList x.2.pattern), Text.lowerString (String.ofList x.2.verb.text), h,
          decide (x.2.group = g.authorized.toList)⟩) ∧
    (parseRoutes g source).keys.Pairwise fun a b =>
      ((placed g source.toList).map fun x => String.ofList x.2.handler).idxOf a <
        ((placed g source.toList).map fun x => String.ofList x.2.handler).idxOf b := by
  have hnames : ((placed g source.toList).map fun x => (String.ofList x.2.handler, x.2.route g)).map Prod.fst =
      (placed g source.toList).map fun x => String.ofList x.2.handler := by
    rw [List.map_map]
    rfl
  refine ⟨placedFrom_sites g none 0 0 source.toList, scanned_placedFrom hg [] source.toList 0, fun h => ?_,
    fun h => ?_, ?_⟩
  · rw [parseRoutes_eq, RouteTable.mem_keys_ofEntries, hnames, List.mem_map]
  · rw [parseRoutes_eq, RouteTable.get?_ofEntries, List.filter_map, List.getLast?_map, Option.map_map]
    refine Option.map_congr fun x hx => ?_
    have hname : String.ofList x.2.handler = h :=
      beq_iff_eq.1 (List.mem_filter.1 (List.mem_of_getLast? hx)).2
    rw [Function.comp_apply, CallSite.route_eq, hname]
  · rw [parseRoutes_eq, ← hnames]
    exact RouteTable.keys_ofEntries_order _

/-- The pattern of the first call looks like a call, another one has a word in front of it, and the last
one is for the handler of the first. -/
def quotedRouter : String :=
  "api.GET(\"api.PUT(\", h.Show)xapi.PUT(\", h.No)\nauthorized.GET(\"/a/:id\",h.Show\n)"

theorem parseRoutes_scanned_quotedRouter : Groups.standard.Proper ∧
    Scanned Groups.standard quotedRouter.toList 0 (placed Groups.standard quotedRouter.toList) ∧
    (parseRoutes Groups.standard quotedRouter).keys = ["Show"] ∧
    (parseRoutes Groups.standard quotedRouter).get? "Show" =
      some ⟨"/a/\x7bid\x7d", "get", "Show", true⟩ := by
  obtain ⟨-, hscanned, -, hget, -⟩ := parseRoutes_scanned (g := Groups.standard) (by decide) quotedRouter
  refine ⟨by decide, hscanned, by decide +kernel, ?_⟩
  rw [hget]
  decide +kernel

end RouteDoc.Route
