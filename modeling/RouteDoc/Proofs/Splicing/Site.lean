/-
The site of a splice: a function of a text and the text around its doc block.

A `Site` cuts a text in front of the doc block of a function, at the function,
and behind its first token, and keeps what the parts are read as. Every function
of a text has one (`exists_site`).
-/
import RouteDoc.Proofs.Splicing.CommentLines

namespace RouteDoc.Go

open Grammar Declaration

/-! ## The lexemes in front of a comment -/

theorem tokensOf_no_token {gap : Gap} {here : Mark} {ps : List Piece} {g : Gap}
    (h : tokensOf gap here ps = ⟨[], g⟩) : g.from_ = gap.from_ ∧ ∃ more, g.comments = gap.comments ++ more := by
  induction ps generalizing gap here with
  | nil =>
    obtain rfl : gap = g := congrArg Tokens.rest h
    exact ⟨rfl, [], by simp⟩
  | cons p ps ih =>
    simp only [tokensOf] at h
    split at h
    · exact ih h
    · exact @ih { gap with newline := true } _ h
    · obtain ⟨hfrom, more, hmore⟩ := ih h
      exact ⟨hfrom, [_] ++ more, by rw [hmore, List.append_assoc]⟩
    · cases congrArg Tokens.tokens h

/-- The lexemes before and behind a comment of the last gap. -/
theorem tokensOf_comment {gap : Gap} {here : Mark} {ps : List Piece} {before : List Token} {g : Gap}
    {kept doc : List Comment} {c : Comment} (h : tokensOf gap here ps = ⟨before, g⟩)
    (hg : g.comments = kept ++ c :: doc) (hgap : before = [] → gap.comments.length ≤ kept.length) :
    ∃ qs rs newline, ps = qs ++ rs ∧ tokensOf gap here qs = ⟨before, ⟨g.from_, newline, kept⟩⟩ ∧
      c.start = here.over (textsOf qs) := by
  induction ps generalizing gap here before with
  | nil =>
    obtain ⟨rfl, rfl⟩ := Tokens.mk.inj h
    have hlen := hgap rfl
    rw [hg, List.length_append, List.length_cons] at hlen
    omega
  | cons p ps ih =>
    -- A piece that is no token and not the comment only moves on.
    have hnext : ∀ {gap'}, tokensOf gap' (here.over p.text) ps = ⟨before, g⟩ →
        (before = [] → gap'.comments.length ≤ kept.length) →
        (∀ qs, tokensOf gap here (p :: qs) = tokensOf gap' (here.over p.text) qs) →
        ∃ qs rs newline, p :: ps = qs ++ rs ∧ tokensOf gap here qs = ⟨before, ⟨g.from_, newline, kept⟩⟩ ∧
          c.start = here.over (textsOf qs) := by
      intro gap' h hgap hstep
      obtain ⟨qs, rs, newline, rfl, hqs, hstart⟩ := ih h hgap
      exact ⟨p :: qs, rs, newline, rfl, by rw [hstep, hqs], by rw [hstart, textsOf_cons, Mark.over_append]⟩
    obtain ⟨lexeme, text⟩ := p
    simp only [tokensOf] at h
    cases lexeme with
    | blank => exact hnext h hgap fun _ => rfl
    | newline => exact hnext h hgap fun _ => rfl
    | comment =>
      by_cases hhere : before = [] ∧ gap.comments.length = kept.length
      · obtain ⟨rfl, hlen⟩ := hhere
        obtain ⟨hfrom, more, hmore⟩ := tokensOf_no_token h
        rw [hg, List.append_assoc, List.singleton_append] at hmore
        obtain ⟨rfl, hc⟩ := List.append_inj hmore hlen.symm
        obtain ⟨rfl, -⟩ := List.cons.inj hc
        exact ⟨[], _, gap.newline, rfl, by rw [hfrom]; rfl, rfl⟩
      · refine hnext h (fun hnil => ?_) fun _ => rfl
        have := hgap hnil
        have : gap.comments.length ≠ kept.length := fun heq => hhere ⟨hnil, heq⟩
        simp only [List.length_append, List.length_singleton]
        omega
    | token kind =>
      obtain ⟨hbefore, hrest⟩ := Tokens.mk.inj h
      obtain ⟨qs, rs, newline, rfl, hqs, hstart⟩ := @ih (Gap.atStart (here.over text))
        (here.over text) before.tail (by rw [← hbefore, ← hrest]; rfl) (fun _ => Nat.zero_le _)
      refine ⟨_ :: qs, rs, newline, rfl, ?_, by rw [hstart, textsOf_cons, Mark.over_append]⟩
      simp only [tokensOf, hqs]
      rw [← hbefore, List.tail_cons]

/-! ## Sites -/

/-- Nodes above a clause, the nearest first. -/
def nodesAbove (behind : Gap) (front : List Clause) (c : Clause) (back : List Clause) : List Node :=
  (nodesOver behind (tokensIn (c :: back)) front).reverse

/-- A function of a text, and the text around its doc block. -/
structure Site {source : List UInt8} (p : Parsed source) (d : Declaration) where
  front : List Clause
  clause : Clause
  back : List Clause
  clauses : p.clauses = front ++ clause :: back
  function : clause.item = .function d.function
  start : d.start = clause.first.start
  /-- The comments of the gap that are not in the doc block. -/
  kept : List Comment
  comments : clause.first.gap.comments = kept ++ d.doc
  /-- The lexemes in front of the doc block. -/
  ahead : List Piece
  /-- The lexemes of the doc block, up to the function. -/
  doc : List Piece
  /-- The lexemes behind the first token of the function. -/
  behind : List Piece
  pieces : pieces 0 (bodyOf source) =
    some (ahead ++ doc ++ ⟨.token clause.first.kind, clause.first.text⟩ :: behind)
  newline : Bool
  ahead_tokens : tokensOf (Gap.atStart (startOf source)) (startOf source) ahead =
    ⟨tokensIn front, ⟨clause.first.gap.from_, newline, kept⟩⟩
  docStart_eq : d.docStart = (startOf source).over (textsOf ahead)
  start_eq : d.start = (startOf source).over (textsOf (ahead ++ doc))
  stop_eq : clause.first.stop = d.start.over clause.first.text
  closes : ∀ q ∈ ahead.getLast?, q.Closes
  tokens : p.tokens = ⟨tokensIn front ++ clause.first ::
      (tokensOf (Gap.atStart clause.first.stop) clause.first.stop behind).tokens,
    (tokensOf (Gap.atStart clause.first.stop) clause.first.stop behind).rest⟩

/-- An item that starts behind other clauses follows a line end or a semicolon. -/
theorem Reads.first_newline {r : Rules} {behind : Gap} {front back : List Clause} {c : Clause}
    (h : Reads r behind (front ++ c :: back)) :
    c.first.newline = true ∨ ∀ t ∈ (tokensIn front).getLast?, t.kind = .sign .semicolon := by
  induction front with
  | nil => exact .inr (by simp)
  | cons e front ih =>
    obtain ⟨-, hends, hrest⟩ := h
    cases front with
    | cons e' front =>
      refine (ih hrest).imp_right fun hlast t ht => hlast t ?_
      rw [tokensIn_cons, List.getLast?_append, List.getLast?_append] at ht
      have hne : (tokensIn (e' :: front)).getLast? ≠ none := by
        simp [Clause.own]
      obtain ⟨u, hu⟩ := Option.ne_none_iff_exists'.1 hne
      rw [hu] at ht ⊢
      simpa using ht
    | nil =>
      unfold Clause.Ends at hends
      simp only [List.append_eq, List.nil_append, tokensIn_cons, Clause.own, List.cons_append] at hends
      cases hcloser : e.closer with
      | none =>
        rw [hcloser] at hends
        exact .inl hends
      | some t =>
        rw [hcloser] at hends
        refine .inr fun u hu => ?_
        rw [tokensIn_cons, hcloser] at hu
        simp at hu
        exact hu ▸ hends.2

theorem Reads.closers {r : Rules} {behind : Gap} {cs : List Clause} (h : Reads r behind cs) :
    ∀ c ∈ cs, ∀ t ∈ c.closer, t.newline = false ∧ t.kind = .sign .semicolon := by
  induction cs with
  | nil => simp
  | cons c cs ih =>
    obtain ⟨-, hends, hrest⟩ := h
    refine List.forall_mem_cons.2 ⟨fun t ht => ?_, ih hrest⟩
    unfold Clause.Ends at hends
    rw [Option.mem_def.1 ht] at hends
    exact hends

theorem Follow.spans {m stop : Mark} {ts : List Token} (h : Follow m ts stop) :
    ∀ t ∈ ts, t.gap.Spans t.start := by
  induction ts generalizing m with
  | nil => simp
  | cons t ts ih => exact List.forall_mem_cons.2 ⟨h.2.1, ih h.2.2.2⟩

/-- No doc block reaches over the clauses in front of a function. -/
theorem Parsed.above_blocked {source : List UInt8} (p : Parsed source) {front back : List Clause} {c : Clause}
    (h : p.clauses = front ++ c :: back) (row : Nat) :
    runAbove row (nodesAbove p.tokens.rest front c back) = [] := by
  refine nodesOver_blocked (fun e he t ht => ⟨?_, ?_⟩) row
  · exact (p.reads.closers e (by rw [h]; simp [he]) t ht).1
  · refine ⟨t.start, (tokenize_follow p.tokenize).1.spans t ?_⟩
    rw [← p.cut, h, tokensIn, List.mem_flatMap]
    exact ⟨e, by simp [he], by simp [Clause.tokens, Option.mem_def.1 ht]⟩

/-- The token in front of a gap without a line end is a semicolon, or the doc block does not start
right behind it. -/
theorem Parsed.last_ahead {source : List UInt8} (p : Parsed source) {front back : List Clause} {c : Clause}
    (h : p.clauses = front ++ c :: back) {e : Comment}
    (htrails : trails (.ofComment e) (nodesAbove p.tokens.rest front c back) = false)
    (he : e.start = c.first.gap.from_) : ∀ t ∈ (tokensIn front).getLast?, t.kind = .sign .semicolon := by
  intro t ht
  rcases List.eq_nil_or_concat front with rfl | ⟨front, e', rfl⟩
  · simp at ht
  rw [List.concat_eq_append] at h htrails ht
  cases hcloser : e'.closer with
  | none =>
    exfalso
    have hstop : (e'.node p.tokens.rest (tokensIn (c :: back))).stop = c.first.gap.from_ := by
      simp [Clause.node, hcloser, Clause.own, stopOf]
    have hnodes : nodesAbove p.tokens.rest (front ++ [e']) c back =
        e'.node p.tokens.rest (tokensIn (c :: back)) ::
          ((nodesOver p.tokens.rest (tokensIn [e'] ++ tokensIn (c :: back)) front ++
            commentNodes e'.first.gap).reverse) := by
      simp [nodesAbove, nodesOver_append, nodesOver, Clause.closing, hcloser]
    rw [hnodes] at htrails
    simp only [trails, hstop, Node.ofComment, he] at htrails
    simp at htrails
  | some u =>
    have hkind := (p.reads.closers e' (by rw [h]; simp) u hcloser).2
    obtain rfl : u = t := by simpa [hcloser] using ht
    exact hkind

/-- **Every function of a text has a site**, with the functions before and behind it. -/
theorem exists_site {source : List UInt8} (p : Parsed source) {ds es : List Declaration} {d : Declaration}
    (h : ofNodes p.nodes = ds ++ d :: es) :
    ∃ s : Site p d,
      ofNodes (nodesOver p.tokens.rest (tokensIn (s.clause :: s.back)) s.front) = ds ∧
      ofNodesFrom (s.clause.past p.tokens.rest (nodesAbove p.tokens.rest s.front s.clause s.back)
        (tokensIn s.back)) (nodesIn p.tokens.rest s.back) = es := by
  obtain ⟨front, c, back, hclauses, hds, hd, hes⟩ := declaration_split h
  rw [List.append_nil] at hd hes
  obtain ⟨hfunction, hstart, kept, hkept, htrails⟩ := doc_in_gap (p.above_blocked hclauses) hd
  have htokenize := p.tokenize
  rw [tokenize_eq] at htokenize
  obtain ⟨ps, hps, htokens⟩ := Option.map_eq_some_iff.1 htokenize
  have hcut : (tokensOf (Gap.atStart (startOf source)) (startOf source) ps).tokens =
      tokensIn front ++ c.first :: (c.more ++ (c.closer.toList ++ tokensIn back)) := by
    rw [htokens, ← p.cut, hclauses, tokensIn_append, tokensIn_cons]
    rfl
  obtain ⟨ps₁, ps₂, rfl, hps₁, hfirst, hstop, hall⟩ := tokensOf_split hcut
  rw [htokens] at hall
  rw [← hstart] at hfirst hstop
  -- A text in front of the function, cut where the doc block starts.
  suffices hcutdoc : ∃ ahead doc newline, ps₁ = ahead ++ doc ∧
      tokensOf (Gap.atStart (startOf source)) (startOf source) ahead =
        ⟨tokensIn front, ⟨c.first.gap.from_, newline, kept⟩⟩ ∧
      d.docStart = (startOf source).over (textsOf ahead) ∧ ∀ q ∈ ahead.getLast?, q.Closes by
    obtain ⟨ahead, doc, newline, rfl, hahead, hdocStart, hcloses⟩ := hcutdoc
    let site : Site p d :=
      { front, clause := c, back, clauses := hclauses, function := hfunction, start := hstart,
        kept, comments := hkept, ahead, doc, behind := ps₂, pieces := hps, newline,
        ahead_tokens := hahead, docStart_eq := hdocStart, start_eq := hfirst, stop_eq := hstop,
        closes := hcloses, tokens := hall }
    exact ⟨site, hds, hes⟩
  cases hdoc : d.doc with
  | nil =>
    rw [hdoc, List.append_nil] at hkept
    refine ⟨ps₁, [], c.first.gap.newline, (List.append_nil _).symm, by rw [hps₁, ← hkept], ?_, ?_⟩
    · rw [docStart, hdoc]; exact hfirst
    · refine closes_before_function hps rfl hps₁ fun t ht => ?_
      rcases (hclauses ▸ p.reads).first_newline with hnewline | hsemi
      · refine .inr fun hgap => ?_
        rw [Token.newline, hgap] at hnewline
        cases hnewline
      · exact .inl (hsemi t ht)
  | cons e doc =>
    rw [hdoc] at hkept htrails
    have htrails := htrails e rfl
    obtain ⟨ahead, rs, newline, rfl, hahead, hestart⟩ := tokensOf_comment hps₁ hkept fun _ => Nat.zero_le _
    refine ⟨ahead, rs, newline, rfl, hahead, by rw [docStart, hdoc]; exact hestart, ?_⟩
    rw [List.append_assoc] at hps
    refine closes_before_doc hps hahead (fun k hk => ?_) fun t ht => ?_
    · obtain ⟨ks, hks⟩ := List.getLast?_eq_some_iff.1 hk
      obtain rfl : kept = ks ++ [k] := hks
      rw [← hestart]
      simpa [trails, Node.ofComment] using htrails
    · by_cases hgap : (⟨c.first.gap.from_, newline, kept⟩ : Gap) = Gap.atStart ((startOf source).over (textsOf ahead))
      · obtain ⟨hfrom, -, rfl⟩ := Gap.mk.inj hgap
        exact .inl (p.last_ahead hclauses htrails (hestart.trans hfrom.symm) t ht)
      · exact .inr hgap

end RouteDoc.Go
