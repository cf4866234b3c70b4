/-
A splice at a site keeps the text grammatical.

Put line comments in place of the doc block of a function. The tokens in front of
the function stay where they are, those behind it are shifted, and of the
function's first token only the gap changes (`Site.tokenize`): this is a
`Retouch`. So the new text has clauses of the same form (`Site.respliced`).
-/
import RouteDoc.Proofs.Splicing.Site
import RouteDoc.Splice

namespace RouteDoc.Go

open Grammar Declaration

theorem replaceRange_mid (x y z block : List UInt8) :
    replaceRange (x ++ (y ++ z)) x.length (x ++ y).length block = x ++ block ++ z := by
  unfold replaceRange
  rw [List.take_left, ← List.append_assoc, List.drop_left]

namespace Site

variable {source : List UInt8} {p : Parsed source} {d : Declaration} (s : Site p d)
  (ls : List (List UInt8))

/-- The text with line comments as the doc block of the function. -/
def rewritten (_ : Site p d) : List UInt8 :=
  replaceRange source d.docStart.offset d.start.offset (commentLines ls)

/-- The lexemes from the function on. -/
def rest : List Piece := ⟨.token s.clause.first.kind, s.clause.first.text⟩ :: s.behind

theorem body_eq : bodyOf source = textsOf s.ahead ++ (textsOf s.doc ++ textsOf s.rest) := by
  rw [← textsOf_pieces s.pieces]
  simp [rest]

theorem source_eq : source = leadOf source ++ (textsOf s.ahead ++ (textsOf s.doc ++ textsOf s.rest)) := by
  rw [← s.body_eq, leadOf_append_bodyOf]

theorem docStart_offset : d.docStart.offset = (leadOf source ++ textsOf s.ahead).length := by
  rw [s.docStart_eq]
  simp [startOf, Mark.origin]

theorem start_offset : d.start.offset = (leadOf source ++ textsOf s.ahead ++ textsOf s.doc).length := by
  rw [s.start_eq]
  simp [startOf, Mark.origin]

theorem rewritten_eq :
    s.rewritten ls = leadOf source ++ (textsOf s.ahead ++ (commentLines ls ++ textsOf s.rest)) := by
  have h := s.source_eq
  rw [← List.append_assoc] at h
  unfold rewritten
  rw [s.docStart_offset, s.start_offset]
  refine (congrArg (fun bytes => replaceRange bytes _ _ _) h).trans ?_
  rw [replaceRange_mid]
  simp

end Site

/-- Where a text has no byte order mark, none arises from a text put into it that starts with a
slash. -/
theorem byteOrderMark_insert {x y z : List UInt8} (h : byteOrderMark.isPrefixOf (x ++ y) = false) :
    byteOrderMark.isPrefixOf (x ++ 0x2F :: z) = false := by
  rw [← Bool.not_eq_true, List.isPrefixOf_iff_prefix] at h ⊢
  intro hmark
  have hslash : x ++ [0x2F] <+: x ++ 0x2F :: z := ⟨z, by simp⟩
  rcases List.prefix_or_prefix_of_prefix hmark hslash with hpre | hpre
  · rcases List.prefix_concat_iff.1 hpre with heq | hpre
    · have hmem : (0x2F : UInt8) ∈ byteOrderMark := by rw [heq]; simp
      revert hmem; decide
    · exact h (hpre.trans (List.prefix_append x y))
  · have hmem : (0x2F : UInt8) ∈ byteOrderMark := hpre.subset (by simp)
    revert hmem; decide

theorem leadOf_insert {source x y z : List UInt8} (h : source = leadOf source ++ (x ++ y)) :
    leadOf (leadOf source ++ (x ++ 0x2F :: z)) = leadOf source := by
  cases hmark : byteOrderMark.isPrefixOf source with
  | true =>
    have hlead : leadOf source = byteOrderMark := by simp [leadOf, hmark]
    have hpre : byteOrderMark.isPrefixOf (byteOrderMark ++ (x ++ 0x2F :: z)) = true :=
      List.isPrefixOf_iff_prefix.2 (List.prefix_append _ _)
    rw [hlead]
    simp [leadOf, hpre]
  | false =>
    have hlead : leadOf source = [] := by simp [leadOf, hmark]
    rw [hlead, List.nil_append] at h ⊢
    rw [h] at hmark
    simp [leadOf, byteOrderMark_insert hmark]

namespace Site

variable {source : List UInt8} {p : Parsed source} {d : Declaration} (s : Site p d)
  (ls : List (List UInt8))

/-- The first token of the function in the new text. -/
def newFirst : Token :=
  let start := d.docStart.over (commentLines ls)
  ⟨s.clause.first.kind, s.clause.first.text, start, start.over s.clause.first.text,
    ⟨s.clause.first.gap.from_, true, s.kept ++ lineComments d.docStart ls⟩⟩

/-- The tokens of the new text. -/
def newTokens : Tokens :=
  let stop := (s.newFirst ls).stop
  let behind := tokensOf (Gap.atStart stop) stop s.behind
  ⟨tokensIn s.front ++ s.newFirst ls :: behind.tokens, behind.rest⟩

variable {ls} (hls : ∀ l ∈ ls, Plain l) (hne : ls ≠ [])

include hne in
theorem lead_rewritten : leadOf (s.rewritten ls) = leadOf source := by
  obtain ⟨l, ls, rfl⟩ := List.exists_cons_of_ne_nil hne
  rw [s.rewritten_eq, commentLines_cons, lineText]
  exact leadOf_insert s.source_eq

include hls hne in
/-- **The tokens of the new text.** -/
theorem tokenize : Go.tokenize (s.rewritten ls) = some (s.newTokens ls) := by
  have hlead := s.lead_rewritten hne
  have hstart : startOf (s.rewritten ls) = startOf source := by rw [startOf, startOf, hlead]
  have hbody : bodyOf (s.rewritten ls) = textsOf s.ahead ++ (commentLines ls ++ textsOf s.rest) := by
    rw [bodyOf, hlead, s.rewritten_eq]
    exact List.drop_left
  have hrest : Go.pieces 0 (textsOf s.rest) = some s.rest := pieces_behind s.pieces
  have hpieces : Go.pieces 0 (bodyOf (s.rewritten ls)) =
      some (s.ahead ++ (linePieces ls ++ s.rest)) := by
    have hold : Go.pieces 0 (textsOf s.ahead ++ (textsOf s.doc ++ textsOf s.rest)) =
        some (s.ahead ++ (s.doc ++ s.rest)) := by
      rw [← s.body_eq, s.pieces, List.append_assoc]
      rfl
    rw [hbody, pieces_append hold s.closes, pieces_commentLines hls, hrest]
    rfl
  rw [tokenize_eq, hpieces, hstart, Option.map_some, Option.some.injEq, tokensOf_append, s.ahead_tokens]
  have hempty : (s.newline || !ls.isEmpty) = true := by
    cases ls with
    | nil => exact absurd rfl hne
    | cons => simp
  rw [← s.docStart_eq, tokensOf_linePieces, hempty]
  rfl

/-! ## The tokens as a retouch -/

/-- The tokens behind the first one of the function, counted from it. -/
def tail : Tokens := tokensOf (Gap.atStart .origin) .origin s.behind

theorem tokens_eq : p.tokens.tokens =
    tokensIn s.front ++ s.clause.first :: (s.tail.moved s.clause.first.stop).tokens := by
  rw [s.tokens, tail, ← tokensOf_atStart]

theorem newTokens_eq : (s.newTokens ls).tokens =
    tokensIn s.front ++ s.newFirst ls :: (s.tail.moved (s.newFirst ls).stop).tokens := by
  rw [newTokens, tail, ← tokensOf_atStart]

theorem tokens_rest : p.tokens.rest = s.tail.rest.moved s.clause.first.stop := by
  rw [s.tokens, tokensOf_atStart]
  rfl

theorem newTokens_rest : (s.newTokens ls).rest = s.tail.rest.moved (s.newFirst ls).stop := by
  rw [newTokens, tokensOf_atStart]
  rfl

theorem reads : Reads (rulesFor p.tokens.tokens) p.tokens.rest (s.front ++ s.clause :: s.back) :=
  s.clauses ▸ p.reads

end Site

theorem item_function_kind {r : Rules} {t : Token} {ts rest : List Token} {f : Function}
    (h : Grammar.item r (t :: ts) = some (.function f, rest)) : t.kind = .word .func_ := by
  have hplain : ∀ {p : List Token → Option (List Token)} {us : List Token},
      ((p us).map fun rest => (Item.other, rest)) ≠ some (.function f, rest) := by
    intro p us h
    obtain ⟨_, _, he⟩ := Option.map_eq_some_iff.1 h
    cases he
  unfold Grammar.item at h
  dsimp only at h
  split at h
  · exact absurd h hplain
  · exact absurd h hplain
  · assumption
  · obtain ⟨_, _, he⟩ := Option.map_eq_some_iff.1 h
    cases he
  · exact absurd h hplain

/-- Clauses close the brackets they open. -/
theorem Reads.depth {n : Nat} {behind : Gap} {cs es : List Clause} (h : Reads (rules n) behind (cs ++ es)) :
    depthAfter 0 (tokensIn cs) = some 0 := by
  induction cs with
  | nil => rfl
  | cons c cs ih =>
    obtain ⟨hitem, hends, hrest⟩ := h
    obtain ⟨own, hown, hdepth⟩ := item_taken hitem
    rw [tokensIn_cons] at hown
    obtain rfl := List.append_cancel_right hown
    have hcloser : depthAfter 0 c.closer.toList = some 0 := by
      unfold Clause.Ends at hends
      cases hc : c.closer with
      | none => rfl
      | some t =>
        rw [hc] at hends
        simp [depthAfter_singleton, depthStep, hends.2, TokenKind.opens, TokenKind.closes]
    rw [tokensIn_cons, depthAfter_append, hdepth, Option.bind_some, depthAfter_append, hcloser]
    exact ih hrest

theorem Token.Shifted.alike {a b : Mark} {t u : Token} (h : Token.Shifted a b t u) : t.Alike u := by
  refine ⟨⟨h.kind, h.text, h.gap.newline⟩, ?_⟩
  have hlen := h.gap.comments.length_eq
  rw [Bool.eq_iff_iff, List.isEmpty_iff_length_eq_zero, List.isEmpty_iff_length_eq_zero, hlen]

theorem forall₂_append_left {α : Type} {P : α → α → Prop} {xs xs' zs : List α}
    (h : List.Forall₂ P (xs ++ xs') zs) :
    ∃ ys ys', zs = ys ++ ys' ∧ List.Forall₂ P xs ys ∧ List.Forall₂ P xs' ys' := by
  induction xs generalizing zs with
  | nil => exact ⟨[], zs, rfl, .nil, h⟩
  | cons x xs ih =>
    cases h with | cons hxz h =>
    obtain ⟨ys, ys', rfl, h1, h2⟩ := ih h
    exact ⟨_ :: ys, ys', rfl, .cons hxz h1, h2⟩

theorem tokensIn_length {cs es : List Clause} (h : List.Forall₂ Clause.Alike cs es) :
    (tokensIn cs).length = (tokensIn es).length := by
  induction h with
  | nil => rfl
  | cons hce _ ih =>
    simp only [tokensIn_cons, Clause.own, List.length_append, List.length_cons, ih, hce.length,
      hce.closer_length]

namespace Site

variable {source : List UInt8} {p : Parsed source} {d : Declaration} (s : Site p d)

theorem tail_shifted (a b : Mark) :
    List.Forall₂ (Token.Shifted a b) (s.tail.moved a).tokens (s.tail.moved b).tokens :=
  s.tail.moved_shifted.1

theorem first_kind : s.clause.first.kind = .word .func_ := by
  obtain ⟨hitem, -⟩ := s.reads.append_right
  rw [s.function, tokensIn_cons, Clause.own, List.cons_append] at hitem
  exact item_function_kind hitem

theorem old_site : p.tokens.tokens[(tokensIn s.front).length]? = some s.clause.first := by
  rw [s.tokens_eq]; simp

theorem new_site (ls : List (List UInt8)) :
    (s.newTokens ls).tokens[(tokensIn s.front).length]? = some (s.newFirst ls) := by
  rw [s.newTokens_eq]; simp

/-- Away from the first token of the function the old and the new tokens are alike. -/
theorem tokens_alike (ls : List (List UInt8)) (i : Nat) (hi : i ≠ (tokensIn s.front).length) :
    Option.Rel Token.Alike p.tokens.tokens[i]? (s.newTokens ls).tokens[i]? := by
  rw [s.tokens_eq, s.newTokens_eq]
  rcases Nat.lt_or_gt_of_ne hi with hlt | hgt
  · rw [List.getElem?_append_left hlt, List.getElem?_append_left hlt]
    cases (tokensIn s.front)[i]? with
    | none => exact .none
    | some t => exact .some (.refl t)
  · obtain ⟨j, rfl⟩ : ∃ j, i = (tokensIn s.front).length + (j + 1) := ⟨i - (tokensIn s.front).length - 1, by omega⟩
    rw [List.getElem?_append_right (by omega), List.getElem?_append_right (by omega),
      Nat.add_sub_cancel_left, List.getElem?_cons_succ, List.getElem?_cons_succ]
    exact rel_getElem?_of_forall₂ ((s.tail_shifted _ _).imp fun _ _ h => h.alike) j

/-- The old and the new tokens. -/
def retouch (ls : List (List UInt8)) : Retouch where
  old := p.tokens.tokens
  new := (s.newTokens ls).tokens
  site := (tokensIn s.front).length
  akin i hi := rel_imp (s.tokens_alike ls i hi) fun _ _ h => h.toAkin
  same := by
    rw [s.old_site, s.new_site]
    exact .some ⟨rfl, rfl⟩
  func := by
    intro t ht
    rw [s.old_site] at ht
    exact Option.some.inj ht ▸ s.first_kind
  depth := by
    intro t _
    rw [s.tokens_eq, List.take_left]
    exact s.reads.depth
  newline := by
    intro t ht u hu
    rw [s.old_site] at ht
    rw [s.new_site] at hu
    obtain rfl := Option.some.inj ht
    obtain rfl := Option.some.inj hu
    rcases s.reads.first_newline with hnewline | hsemi
    · exact .inl hnewline
    · refine .inr fun i hi v hv => hsemi v ?_
      rw [s.tokens_eq, List.getElem?_append_left (by omega)] at hv
      rw [List.getLast?_eq_getElem?, ← hi]
      exact hv

/-- The clauses of a text before and after a splice at one of its functions. -/
structure Respliced (ls : List (List UInt8)) (p' : Parsed (s.rewritten ls)) where
  front : List Clause
  clause : Clause
  back : List Clause
  clauses : p'.clauses = front ++ clause :: back
  tokens : p'.tokens = s.newTokens ls
  front_shifted : List.Forall₂ (Clause.Shifted .origin .origin) s.front front
  first : clause.first = s.newFirst ls
  more : List.Forall₂ (Token.Shifted s.clause.first.stop (s.newFirst ls).stop) s.clause.more clause.more
  closer : List.Forall₂ (Token.Shifted s.clause.first.stop (s.newFirst ls).stop)
    s.clause.closer.toList clause.closer.toList
  item : s.clause.item.Alike clause.item
  back_shifted : List.Forall₂ (Clause.Shifted s.clause.first.stop (s.newFirst ls).stop) s.back back

/-- **A splice at a site keeps the text grammatical**, with clauses of the same form. -/
theorem respliced {ls : List (List UInt8)} (hls : ∀ l ∈ ls, Plain l) (hne : ls ≠ []) :
    ∃ p' : Parsed (s.rewritten ls), Nonempty (s.Respliced ls p') := by
  have hloose : (s.retouch ls).Loose 0 (tokensIn (s.front ++ s.clause :: s.back)) (s.newTokens ls).tokens :=
    ⟨0, by rw [← s.clauses, p.cut]; rfl, rfl, rfl⟩
  have hbehind : p.tokens.rest.newline = (s.newTokens ls).rest.newline := by
    rw [s.tokens_rest, s.newTokens_rest]; rfl
  have hsite : ∀ t ∈ (s.retouch ls).old[(s.retouch ls).site]?,
      ∀ u ∈ (s.retouch ls).new[(s.retouch ls).site]?, t.newline = true → u.newline = true := by
    intro t _ u hu _
    obtain rfl := Option.some.inj ((s.new_site ls).symm.trans hu)
    rfl
  have hexact : (s.retouch ls).Exact := Retouch.exact_of_alike (s.tokens_alike ls)
  obtain ⟨es, hes, hreads, hsame⟩ := Reads.retouch s.reads hbehind hsite hloose
  obtain ⟨front, back, rfl, hfront, hrest⟩ := forall₂_append_left (hsame.imp fun _ _ h => h.alike hexact)
  cases hrest with | @cons _ clause _ back hclause hback =>
  -- The clauses in front of the function have the old tokens, the others shifted ones.
  have hcut := hes.trans s.newTokens_eq
  rw [tokensIn_append] at hcut
  obtain ⟨hfronteq, hcut⟩ := List.append_inj hcut (tokensIn_length hfront).symm
  rw [tokensIn_cons, Clause.own, List.cons_append] at hcut
  obtain ⟨hfirst, hcut⟩ := List.cons.inj hcut
  have hold := p.cut.trans s.tokens_eq
  rw [s.clauses, tokensIn_append] at hold
  have hold := List.append_cancel_left hold
  rw [tokensIn_cons, Clause.own, List.cons_append] at hold
  have htail := s.tail_shifted s.clause.first.stop (s.newFirst ls).stop
  rw [← hcut, ← (List.cons.inj hold).2] at htail
  obtain ⟨hmore, htail⟩ := forall₂_append_split hclause.length htail
  obtain ⟨hcloser, htail⟩ := forall₂_append_split hclause.closer_length htail
  have hrules : rulesFor (s.newTokens ls).tokens = rulesFor p.tokens.tokens := by
    have hlen := (s.retouch ls).length_eq
    rw [rulesFor, rulesFor]
    exact congrArg (fun n => rules (steps n)) hlen.symm
  refine ⟨⟨s.newTokens ls, front ++ clause :: back, s.tokenize hls hne, hes, hrules ▸ hreads⟩, ⟨{
    front, clause, back
    clauses := rfl
    tokens := rfl
    front_shifted := clauses_shifted hfront (hfronteq ▸ List.forall₂_same.2 fun t _ => t.shifted_refl)
    first := hfirst
    more := hmore
    closer := hcloser
    item := hclause.item
    back_shifted := clauses_shifted hback htail }⟩⟩

end Site

end RouteDoc.Go
