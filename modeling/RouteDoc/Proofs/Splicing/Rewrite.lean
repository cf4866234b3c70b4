/-
Doc blocks of several functions replaced.

The doc blocks are replaced from the last function to the first, at the places
that one reading of the text found. Each splice leaves the functions in front of
it where they are, so every one of them is a splice at a site of the text it
meets, and what one splice preserves, all of them do (`rewrite_preserved`).
-/
import RouteDoc.Handler
import RouteDoc.Proofs.Splicing.Preserved
import RouteDoc.Proofs.Splicing.Ranges

namespace RouteDoc.Go

open Grammar Declaration

/-- The doc block of a function replaced by other bytes. -/
def Declaration.edit (d : Declaration) (block : List UInt8) : Edit :=
  ⟨d.docStart.offset, d.start.offset, block⟩

/-- Line comments of which the last names a route. -/
structure DocLines (lines : List (List UInt8)) : Prop where
  plain : ∀ l ∈ lines, Plain l
  marked : ∃ init l' l, lines = init ++ [l', l] ∧
    Text.occursIn routeMarker (textOf (lineText l)).toList = true

/-- A function that stays what it is and keeps the texts of its doc block. -/
structure Declaration.Kept (d e : Declaration) : Prop where
  function : d.function = e.function
  docTexts : d.docTexts = e.docTexts

/-- The functions of a text before and after some of them, in order, got a doc block that names a
route. -/
inductive Documents : List Declaration → List Declaration → List Declaration → Prop where
  | nil : Documents [] [] []
  | keep {d e ds xs es} : d.Kept e → Documents ds xs es → Documents (d :: ds) xs (e :: es)
  | edit {d e ds xs es} : d.function = e.function → isDocumented e = true → Documents ds xs es →
      Documents (d :: ds) (d :: xs) (e :: es)

theorem Documents.append {ds xs es ds' xs' es' : List Declaration} (h : Documents ds xs es)
    (h' : Documents ds' xs' es') : Documents (ds ++ ds') (xs ++ xs') (es ++ es') := by
  induction h with
  | nil => exact h'
  | keep hde _ ih => exact .keep hde ih
  | edit hfunction hdoc _ ih => exact .edit hfunction hdoc ih

theorem Documents.of_kept {ds es : List Declaration} (h : List.Forall₂ Declaration.Kept ds es) :
    Documents ds [] es := by
  induction h with
  | nil => exact .nil
  | cons hde _ ih => exact .keep hde ih

/-- What is said of functions themselves stays. -/
theorem Documents.map_eq {β : Type} {f : Declaration → β} (hf : ∀ d e, d.function = e.function → f d = f e)
    {ds xs es : List Declaration} (h : Documents ds xs es) : ds.map f = es.map f := by
  induction h with
  | nil => rfl
  | keep hde _ ih => rw [List.map_cons, List.map_cons, ih, hf _ _ hde.function]
  | edit hfunction _ _ ih => rw [List.map_cons, List.map_cons, ih, hf _ _ hfunction]

theorem Declaration.Kept.trans {d e f : Declaration} (h : d.Kept e) (h' : e.Kept f) : d.Kept f :=
  ⟨h.function.trans h'.function, h.docTexts.trans h'.docTexts⟩

theorem kept_refl (ds : List Declaration) : List.Forall₂ Declaration.Kept ds ds :=
  List.forall₂_same.2 fun _ _ => ⟨rfl, rfl⟩

theorem kept_trans {ds es fs : List Declaration} (h : List.Forall₂ Declaration.Kept ds es)
    (h' : List.Forall₂ Declaration.Kept es fs) : List.Forall₂ Declaration.Kept ds fs := by
  induction h generalizing fs with
  | nil => exact h'
  | cons hde _ ih =>
    cases h' with
    | cons hef hrest => exact .cons (hde.trans hef) (ih hrest)

theorem Declaration.Kept.documented {d e : Declaration} (h : d.Kept e) : isDocumented d = isDocumented e := by
  rw [isDocumented, isDocumented, h.docTexts]

/-- Comments that are in none of the doc blocks of functions. -/
def commentsOutside (ds : List Declaration) (cs : List Comment) : List Comment :=
  cs.filter fun c => !ds.any fun d => decide (c ∈ d.doc)

/-! ## One splice -/

theorem isDocumented_of_mem {d : Declaration} {c : Comment} {l : List UInt8} (hc : c ∈ d.doc)
    (htext : c.text = lineText l)
    (hl : Text.occursIn routeMarker (textOf (lineText l)).toList = true) : isDocumented d = true := by
  rw [isDocumented, docTexts, List.any_map, List.any_eq_true]
  exact ⟨c, hc, by rw [Function.comp_apply, htext]; exact hl⟩

/-- What one splice does to the functions, the items, the structures and the comments of a text. -/
theorem splice_preserved {source : List UInt8} {nodes : List Node} (h : nodes? source = some nodes)
    {ds es : List Declaration} {d : Declaration} (hd : ofNodes nodes = ds ++ d :: es)
    {lines : List (List UInt8)} (hlines : DocLines lines) :
    ∃ nodes', nodes? (replaceRange source d.docStart.offset d.start.offset (commentLines lines)) = some nodes' ∧
      (∃ d' es', ofNodes nodes' = ds ++ d' :: es' ∧ d.function = d'.function ∧ isDocumented d' = true ∧
        List.Forall₂ Declaration.Kept es es') ∧
      itemTexts source nodes =
        itemTexts (replaceRange source d.docStart.offset d.start.offset (commentLines lines)) nodes' ∧
      structuresIn nodes = structuresIn nodes' ∧
      ∀ k k', tokenize source = some k →
        tokenize (replaceRange source d.docStart.offset d.start.offset (commentLines lines)) = some k' →
        ∃ ahead back new back', k.comments = ahead ++ d.doc ++ back ∧ k'.comments = ahead ++ new ++ back' ∧
          back.map Comment.text = back'.map Comment.text ∧ ∀ c ∈ back', d.docStart.offset < c.start.offset := by
  obtain ⟨p, rfl⟩ := nodes?_eq_some_iff.1 h
  obtain ⟨s, hds, hes⟩ := exists_site p hd
  obtain ⟨init, l', l, hl, hmarker⟩ := hlines.marked
  have hne : lines ≠ [] := by rw [hl]; simp
  obtain ⟨p', ⟨q⟩⟩ := s.respliced hlines.plain hne
  refine ⟨p'.nodes, nodes?_eq_some_iff.2 ⟨p', rfl⟩, ?_, Site.itemTexts_eq q, Site.structures_eq q, ?_⟩
  · obtain ⟨d', es', hdecls, hfunction, ⟨c, hc, htext⟩, hshifted⟩ := Site.declarations q hds hes hl hlines.plain
    refine ⟨d', es', hdecls, hfunction.symm, isDocumented_of_mem hc htext hmarker, ?_⟩
    exact hshifted.imp fun _ _ h => ⟨h.function, h.docTexts⟩
  · intro k k' hk hk'
    obtain rfl := Option.some.inj (p.tokenize.symm.trans hk)
    obtain rfl := Option.some.inj (p'.tokenize.symm.trans hk')
    obtain ⟨back, back', h1, h2, h3, h4⟩ := Site.comments_eq q
    refine ⟨_, back, _, back', h1, h2, h3, fun c hc => Nat.lt_of_lt_of_le ?_ (h4 c hc)⟩
    have hpos : 0 < (commentLines lines).length := by
      rw [hl, commentLines, List.flatMap_append, List.length_append]
      simp only [List.flatMap_cons, List.length_append, List.length_cons]
      omega
    simp only [Site.newFirst, Mark.over_offset]
    omega

/-! ## Several splices -/

theorem sublist_concat_split {α : Type} {xs ds : List α} {d : α} (h : (xs ++ [d]).Sublist ds) :
    ∃ ds₁ ds₂, ds = ds₁ ++ d :: ds₂ ∧ xs.Sublist ds₁ := by
  obtain ⟨ys, zs, rfl, hxs, hd⟩ := List.append_sublist_iff.1 h
  obtain ⟨zs₁, zs₂, rfl⟩ := List.append_of_mem (List.singleton_sublist.1 hd)
  exact ⟨ys ++ zs₁, zs₂, by simp, hxs.trans (List.sublist_append_left ys zs₁)⟩

/-- The comments behind a doc block are in none of the doc blocks in front of it. -/
theorem commentsOutside_behind {source : List UInt8} {nodes : List Node} (h : nodes? source = some nodes)
    {ds es xs : List Declaration} {d : Declaration} (hds : ofNodes nodes = ds ++ d :: es) (hxs : ∀ x ∈ xs, x ∈ ds)
    {back : List Comment} (hback : ∀ c ∈ back, d.docStart.offset < c.start.offset) : commentsOutside xs back = back := by
  rw [commentsOutside, List.filter_eq_self]
  intro c hc
  simp only [Bool.not_eq_true', List.any_eq_false, decide_eq_true_eq]
  intro x hx hcx
  obtain ⟨hall, hpair⟩ := declarations_ordered h
  rw [hds] at hall hpair
  have hinside := (hall x (List.mem_append_left _ (hxs x hx))).2.1 c hcx
  have hbefore := (List.pairwise_append.1 hpair).2.2 x (hxs x hx) d List.mem_cons_self
  have hbehind := hback c hc
  omega

theorem commentsOutside_append (xs : List Declaration) (cs es : List Comment) :
    commentsOutside xs (cs ++ es) = commentsOutside xs cs ++ commentsOutside xs es :=
  List.filter_append ..

theorem commentsOutside_reverse (xs : List Declaration) (cs : List Comment) :
    commentsOutside xs.reverse cs = commentsOutside xs cs := by
  unfold commentsOutside
  simp only [List.any_reverse]

theorem commentsOutside_sublist {xs ys : List Declaration} (h : xs ⊆ ys) (cs : List Comment) :
    (commentsOutside ys cs).Sublist (commentsOutside xs cs) := by
  refine List.monotone_filter_right cs fun c hc => ?_
  simp only [Bool.not_eq_true', List.any_eq_false] at hc ⊢
  exact fun d hd => hc d (h hd)

theorem commentsOutside_doc (d : Declaration) (xs : List Declaration) : commentsOutside (d :: xs) d.doc = [] := by
  rw [commentsOutside, List.filter_eq_nil_iff]
  intro c hc
  simp [hc]

/-- Of the comments around a splice, those outside of all doc blocks stay. -/
theorem comments_step {d : Declaration} {xs : List Declaration} {ahead back new back' cs : List Comment}
    (hback : back.map Comment.text = back'.map Comment.text)
    (houtside : commentsOutside xs back' = back')
    (h : ((commentsOutside xs (ahead ++ new ++ back')).map Comment.text).Sublist (cs.map Comment.text)) :
    ((commentsOutside (d :: xs) (ahead ++ d.doc ++ back)).map Comment.text).Sublist (cs.map Comment.text) := by
  refine List.Sublist.trans ?_ h
  rw [commentsOutside_append, commentsOutside_append, commentsOutside_append, commentsOutside_append,
    commentsOutside_doc, houtside, List.append_nil, List.map_append, List.map_append, List.map_append]
  refine List.Sublist.append ?_ ?_
  · exact ((commentsOutside_sublist (List.subset_cons_self d xs) ahead).map _).trans (List.sublist_append_left _ _)
  · rw [← hback]
    exact List.filter_sublist.map _

/-- **Doc blocks replaced from the last function to the first.** The functions `ds` get them; those
of `tail`, behind them, have theirs already. -/
theorem rewrite_preserved {source : List UInt8} {nodes : List Node} (h : nodes? source = some nodes)
    {ds tail : List Declaration} (hds : ofNodes nodes = ds ++ tail)
    {edits : List (Declaration × List (List UInt8))}
    (hsub : (edits.map Prod.fst).reverse.Sublist ds) (hlines : ∀ e ∈ edits, DocLines e.2) :
    ∃ nodes', nodes? (applyEdits source (edits.map fun e => e.1.edit (commentLines e.2))) = some nodes' ∧
      (∃ ds' tail', ofNodes nodes' = ds' ++ tail' ∧ Documents ds (edits.map Prod.fst).reverse ds' ∧
        List.Forall₂ Declaration.Kept tail tail') ∧
      itemTexts source nodes =
        itemTexts (applyEdits source (edits.map fun e => e.1.edit (commentLines e.2))) nodes' ∧
      structuresIn nodes = structuresIn nodes' ∧
      ∀ k k', tokenize source = some k →
        tokenize (applyEdits source (edits.map fun e => e.1.edit (commentLines e.2))) = some k' →
        ((commentsOutside (edits.map Prod.fst) k.comments).map Comment.text).Sublist
          (k'.comments.map Comment.text) := by
  induction edits generalizing source nodes ds tail with
  | nil =>
    refine ⟨nodes, h, ⟨ds, tail, hds, .of_kept (kept_refl ds), kept_refl tail⟩, rfl, rfl, fun k k' hk hk' => ?_⟩
    obtain rfl := Option.some.inj (hk.symm.trans hk')
    exact List.filter_sublist.map _
  | cons e edits ih =>
    obtain ⟨d, lines⟩ := e
    rw [List.map_cons, List.reverse_cons] at hsub
    obtain ⟨ds₁, ds₂, rfl, hrest⟩ := sublist_concat_split hsub
    obtain ⟨hline, hlines⟩ := List.forall_mem_cons.1 hlines
    rw [List.append_assoc, List.cons_append] at hds
    obtain ⟨nodes₁, h₁, ⟨d', es', hds₁, hfunction, hdoc, hkept⟩, hitems, hstructures, hcomments⟩ :=
      splice_preserved h hds hline
    obtain ⟨nodes', h', ⟨ds₁', tail', hds', hdocs, htail⟩, hitems', hstructures', hcomments'⟩ :=
      ih h₁ hds₁ hrest hlines
    cases htail with | @cons _ d'' _ es'' hd'' htail =>
    obtain ⟨ds₂', tail₂, rfl, hds₂, htail₂⟩ := forall₂_append_left hkept
    obtain ⟨ds₂'', tail₂', rfl, hds₂', htail₂'⟩ := forall₂_append_left htail
    refine ⟨nodes', h', ⟨ds₁' ++ d'' :: ds₂'', tail₂', by rw [hds']; simp, ?_, kept_trans htail₂ htail₂'⟩,
      hitems.trans hitems', hstructures.trans hstructures', ?_⟩
    · rw [List.map_cons, List.reverse_cons]
      refine hdocs.append (.edit (hfunction.trans hd''.function) ?_ (.of_kept (kept_trans hds₂ hds₂')))
      rw [← hd''.documented]; exact hdoc
    · intro k k' hk hk'
      obtain ⟨p₁, -⟩ := nodes?_eq_some_iff.1 h₁
      obtain ⟨ahead, back, new, back', hk₁, hk₁', hback, hbehind⟩ := hcomments k p₁.tokens hk p₁.tokenize
      have hstep := hcomments' p₁.tokens k' p₁.tokenize hk'
      rw [hk₁'] at hstep
      rw [hk₁]
      refine comments_step hback ?_ hstep
      exact commentsOutside_behind h hds (fun x hx => hrest.subset (List.mem_reverse.2 hx)) hbehind

end RouteDoc.Go
