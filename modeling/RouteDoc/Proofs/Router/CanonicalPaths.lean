/-
Canonical paths.

A path of a router is rewritten one segment at a time, by a rule that speaks of
the segment alone (`Rewrites`). So slashes stay where they are, the two sides of
a slash are rewritten apart from each other, and where no segment has a second
colon the rewritten path binds no name any more, which makes rewriting it again
change nothing (`canonicalPath_segments`).
-/
import Mathlib.Data.List.Forall2
import RouteDoc.Proofs.Router.Segments

namespace RouteDoc

/-! ## Pieces of a text -/

/-- A part of a text without a separator in it lies in one piece. -/
theorem Text.exists_piece {sep : Char} {x : List Char} (hx : sep ∉ x) (a b : List Char) :
    ∃ piece ∈ splitAt sep (a ++ x ++ b), x <:+: piece := by
  induction a with
  | nil =>
    by_cases hb : sep ∈ b
    · obtain ⟨b₁, b₂, rfl, hb₁⟩ := List.eq_append_cons_of_mem hb
      have hfirst : sep ∉ x ++ b₁ := by simp [hx, hb₁]
      refine ⟨x ++ b₁, ?_, (List.prefix_append x b₁).isInfix⟩
      rw [List.nil_append, ← List.append_assoc, splitAt_append, splitAt_of_not_mem hfirst]
      exact List.mem_append_left _ List.mem_cons_self
    · refine ⟨x ++ b, ?_, (List.prefix_append x b).isInfix⟩
      rw [List.nil_append, splitAt_of_not_mem (by simp [hx, hb])]
      exact List.mem_cons_self
  | cons d a ih =>
    obtain ⟨piece, hpiece, hinside⟩ := ih
    rw [List.cons_append, List.cons_append, splitAt]
    split
    · exact absurd ‹_› (splitAt_ne_nil sep _)
    rename_i first more hsplit
    rw [hsplit] at hpiece
    split
    · exact ⟨piece, List.mem_cons_of_mem _ hpiece, hinside⟩
    · rcases List.mem_cons.1 hpiece with rfl | hmore
      · exact ⟨d :: piece, List.mem_cons_self, List.infix_cons hinside⟩
      · exact ⟨piece, List.mem_cons_of_mem _ hmore, hinside⟩

theorem Text.intercalate_splitAt (sep : Char) (s : List Char) : List.intercalate [sep] (splitAt sep s) = s := by
  induction s with
  | nil => rfl
  | cons c s ih =>
    rw [splitAt]
    split
    · exact absurd ‹_› (splitAt_ne_nil sep s)
    rename_i first more hsplit
    rw [hsplit] at ih
    split
    · rename_i hc
      obtain rfl : c = sep := by simpa using hc
      rw [List.intercalate_cons_cons, ih]
      rfl
    · rw [← ih]
      cases more with
      | nil => simp
      | cons second more => simp [List.intercalate_cons_cons]

namespace Route

variable {segment : List Char}

/-! ## One segment -/

/-- How a segment is rewritten: a name behind its first colon is put in braces, and a segment with
nothing behind its first colon, or without one, stays as it is. -/
inductive Rewrites : List Char → List Char → Prop where
  | named {x y : List Char} (hx : ':' ∉ x) (hy : y ≠ []) : Rewrites (x ++ ':' :: y) (x ++ '{' :: (y ++ ['}']))
  | bare {x : List Char} (hx : ':' ∉ x) : Rewrites (x ++ [':']) (x ++ [':'])
  | plain {x : List Char} (hx : ':' ∉ x) : Rewrites x x

theorem nameIn_append {x : List Char} (hx : ':' ∉ x) (y : List Char) : nameIn (x ++ y) = nameIn y := by
  induction x with
  | nil => rfl
  | cons c x ih =>
    simp only [List.mem_cons, not_or] at hx
    rw [List.cons_append, nameIn_cons (Ne.symm hx.1), ih hx.2]

theorem nameIn_of_not_mem (h : ':' ∉ segment) : nameIn segment = none := by
  simpa [nameIn] using nameIn_append h []

theorem canonicalSegment_of_none (h : nameIn segment = none) : canonicalSegment segment = segment := by
  rw [canonicalSegment, h]

theorem canonicalSegment_named {x y : List Char} (hx : ':' ∉ x) (hy : y ≠ []) :
    canonicalSegment (x ++ ':' :: y) = x ++ '{' :: (y ++ ['}']) := by
  have hname : nameIn (x ++ ':' :: y) = some y := by
    rw [nameIn_append hx, nameIn_colon, if_neg (by simpa using hy)]
  have htake : (x ++ ':' :: y).takeWhile (· != ':') = x := by
    rw [List.takeWhile_append_of_pos fun c hc => by simpa using fun heq : c = ':' => hx (heq ▸ hc)]
    simp
  simp only [canonicalSegment, hname, htake]

theorem rewrites_canonicalSegment (segment : List Char) : Rewrites segment (canonicalSegment segment) := by
  by_cases hmem : ':' ∈ segment
  · obtain ⟨x, y, rfl, hx⟩ := List.eq_append_cons_of_mem hmem
    by_cases hy : y = []
    · subst hy
      rw [canonicalSegment_of_none (by rw [nameIn_append hx]; rfl)]
      exact .bare hx
    · rw [canonicalSegment_named hx hy]
      exact .named hx hy
  · rw [canonicalSegment_of_none (nameIn_of_not_mem hmem)]
    exact .plain hmem

theorem Rewrites.slash_not_mem {u v : List Char} (h : Rewrites u v) (hslash : '/' ∉ u) : '/' ∉ v := by
  cases h with
  | named hx hy => simpa using hslash
  | bare hx => exact hslash
  | plain hx => exact hslash

/-- What is rewritten of a segment with at most one colon binds no name any more. -/
theorem Rewrites.settled {u v : List Char} (h : Rewrites u v) (hcount : u.count ':' ≤ 1) : nameIn v = none := by
  cases h with
  | @named x y hx hy =>
    have hy' : ':' ∉ y := by
      rw [List.count_append, List.count_cons_self] at hcount
      exact List.count_eq_zero.1 (by omega)
    exact nameIn_of_not_mem (by simp [hx, hy'])
  | bare hx =>
    rw [nameIn_append hx]
    rfl
  | plain hx => exact nameIn_of_not_mem hx

/-- A segment that binds no name has nothing behind a colon. -/
theorem not_infix_of_nameIn (h : nameIn segment = none) (c : Char) : ¬[':', c] <:+: segment := by
  rintro ⟨a, b, rfl⟩
  by_cases ha : ':' ∈ a
  · obtain ⟨a₁, a₂, rfl, ha₁⟩ := List.eq_append_cons_of_mem ha
    simp [nameIn_append ha₁, nameIn_colon] at h
  · simp [nameIn_append ha, nameIn_colon] at h

/-! ## All segments -/

/-- The segments of a rewritten pattern are its segments, rewritten. -/
theorem splitAt_canonical (pattern : List Char) :
    Text.splitAt '/' (canonical pattern) = (Text.splitAt '/' pattern).map canonicalSegment := by
  rw [canonical_eq_join]
  refine Text.splitAt_intercalate (by simpa using Text.splitAt_ne_nil '/' pattern) fun piece hpiece => ?_
  obtain ⟨segment, hsegment, rfl⟩ := List.mem_map.1 hpiece
  exact (rewrites_canonicalSegment segment).slash_not_mem (Text.not_mem_splitAt hsegment)

/-- A pattern goes on behind a slash on its own. -/
theorem canonical_append (s t : List Char) : canonical (s ++ '/' :: t) = canonical s ++ '/' :: canonical t := by
  have hfrom : ∀ inside, canonicalFrom inside (s ++ '/' :: t) = canonicalFrom inside s ++ '/' :: canonical t := by
    induction s with
    | nil =>
      intro inside
      cases inside <;> simp [canonicalFrom, canonical]
    | cons c s ih =>
      have hnames : namesSomething (s ++ '/' :: t) = namesSomething s := by
        cases s <;> simp [namesSomething]
      intro inside
      cases inside with
      | true =>
        rw [List.cons_append, canonicalFrom, canonicalFrom, ih, ih]
        split <;> rfl
      | false =>
        rw [List.cons_append, canonicalFrom, canonicalFrom, hnames, ih, ih]
        split <;> rfl
  exact hfrom false

/-- A pattern whose segments bind no name stays as it is. -/
theorem canonical_of_none {pattern : List Char} (h : ∀ segment ∈ Text.splitAt '/' pattern, nameIn segment = none) :
    canonical pattern = pattern := by
  have hsegments : (Text.splitAt '/' pattern).map canonicalSegment = Text.splitAt '/' pattern :=
    (List.map_congr_left fun segment hsegment => canonicalSegment_of_none (h segment hsegment)).trans (List.map_id _)
  rw [canonical_eq_join, hsegments, Text.intercalate_splitAt]

/-- **Paths are rewritten segment by segment.** A rewritten path is the segments of the path, each
rewritten by the rule, with the slashes between them. So rewriting distributes over slashes and keeps the
number of segments. Where no segment has a second colon, a colon that is left has nothing but a slash
behind it, and rewriting again changes nothing. -/
theorem canonicalPath_segments (p : String) :
    (∃ segments, List.Forall₂ Rewrites (Text.splitAt '/' p.toList) segments ∧
      canonicalPath p = String.ofList (List.intercalate ['/'] segments)) ∧
    (∀ q, canonicalPath (p ++ "/" ++ q) = canonicalPath p ++ "/" ++ canonicalPath q) ∧
    (Text.splitAt '/' (canonicalPath p).toList).length = (Text.splitAt '/' p.toList).length ∧
    ((∀ segment ∈ Text.splitAt '/' p.toList, segment.count ':' ≤ 1) →
      (∀ before c after, (canonicalPath p).toList = before ++ ':' :: c :: after → c = '/') ∧
      canonicalPath (canonicalPath p) = canonicalPath p) := by
  have hsplit : Text.splitAt '/' (canonicalPath p).toList = (Text.splitAt '/' p.toList).map canonicalSegment := by
    rw [canonicalPath, String.toList_ofList, splitAt_canonical]
  refine ⟨⟨_, List.forall₂_map_right_iff.2 (List.forall₂_same.2 fun segment _ => rewrites_canonicalSegment segment), ?_⟩,
    fun q => ?_, ?_, fun hcolons => ?_⟩
  · rw [canonicalPath, canonical_eq_join]
  · simp only [canonicalPath, String.toList_append]
    have hchars : p.toList ++ "/".toList ++ q.toList = p.toList ++ '/' :: q.toList := by simp
    rw [hchars, canonical_append]
    simp [String.append_assoc]
  · rw [hsplit, List.length_map]
  · -- No segment of the rewritten pattern binds a name, which settles both.
    have hsettled : ∀ segment ∈ Text.splitAt '/' (canonicalPath p).toList, nameIn segment = none := by
      rw [hsplit]
      refine List.forall_mem_map.2 fun segment hsegment => ?_
      exact (rewrites_canonicalSegment segment).settled (hcolons segment hsegment)
    refine ⟨fun before c after hpath => ?_, ?_⟩
    · by_contra hc
      have hfree : '/' ∉ [':', c] := by simp [Ne.symm hc]
      obtain ⟨piece, hpiece, hinside⟩ := Text.exists_piece hfree before after
      have hwhole : before ++ [':', c] ++ after = (canonicalPath p).toList := by simp [hpath]
      rw [hwhole] at hpiece
      exact not_infix_of_nameIn (hsettled piece hpiece) c hinside
    · rw [canonicalPath, canonical_of_none hsettled, String.ofList_toList]

theorem canonicalPath_segments_bareColon :
    (∀ segment ∈ Text.splitAt '/' "/v:x//a:/:id".toList, segment.count ':' ≤ 1) ∧
    canonicalPath "/v:x//a:/:id" = "/v\x7bx\x7d//a:/\x7bid\x7d" ∧
    canonicalPath (canonicalPath "/v:x//a:/:id") = canonicalPath "/v:x//a:/:id" := by
  have hcolons : ∀ segment ∈ Text.splitAt '/' "/v:x//a:/:id".toList, segment.count ':' ≤ 1 := by decide
  exact ⟨hcolons, by decide, ((canonicalPath_segments "/v:x//a:/:id").2.2.2 hcolons).2⟩

/-- A second colon goes into the name, where the next rewriting finds it. -/
example : canonicalPath "a::b" = "a\x7b:b\x7d" ∧ canonicalPath "a\x7b:b\x7d" = "a\x7b\x7bb\x7d\x7d" := by decide

end Route

end RouteDoc
