/-
The ranges that splices replace.

A splice replaces what stands between the start of a doc block and its function. Where
the nodes of a text are not empty and lie in order (`Laid`), which those of every text do
(`nodes_laid`), such a range has the doc comments of its function in it and no part of
another node (`OwnRange`), and it lies behind every function before. Between the doc
comments there is not even a token: all else in the range are blanks and line ends
(`docRange_bytes`).
-/
import RouteDoc.Proofs.Splicing.Resplice

namespace RouteDoc.Go

open Grammar Declaration

/-! ## Lexemes are not empty -/

def Comment.Solid (c : Comment) : Prop := c.start.offset < c.stop.offset

/-- A token that is not empty, with comments before it that are not. -/
structure Token.Solid (t : Token) : Prop where
  self : t.start.offset < t.stop.offset
  comments : ∀ c ∈ t.gap.comments, c.Solid

theorem pieces_text_ne_nil {bytes : List UInt8} {ps : List Piece} (h : pieces 0 bytes = some ps) :
    ∀ p ∈ ps, p.text ≠ [] := by
  intro p hp
  obtain ⟨ps₁, ps₂, rfl⟩ := List.append_of_mem hp
  obtain ⟨b, rest, n, -, htext, -⟩ := pieces_mid h
  simp [htext]

theorem Mark.lt_over (m : Mark) {text : List UInt8} (h : text ≠ []) : m.offset < (m.over text).offset := by
  have hpos := List.length_pos_iff.2 h
  rw [Mark.over_offset]
  omega

theorem tokensOf_solid {gap : Gap} {here : Mark} {ps : List Piece} (hgap : ∀ c ∈ gap.comments, c.Solid)
    (hps : ∀ p ∈ ps, p.text ≠ []) :
    (∀ t ∈ (tokensOf gap here ps).tokens, t.Solid) ∧ ∀ c ∈ (tokensOf gap here ps).rest.comments, c.Solid := by
  induction ps generalizing gap here with
  | nil => exact ⟨by simp [tokensOf], hgap⟩
  | cons p ps ih =>
    obtain ⟨hp, hps⟩ := List.forall_mem_cons.1 hps
    have hlt := here.lt_over hp
    simp only [tokensOf]
    cases p.lexeme with
    | blank => exact ih hgap hps
    | newline => exact @ih { gap with newline := true } _ hgap hps
    | comment =>
      refine @ih { gap with comments := gap.comments ++ [⟨here, here.over p.text, p.text⟩] } _ (fun c hc => ?_) hps
      rcases List.mem_append.1 hc with hc | hc
      · exact hgap c hc
      · rw [List.mem_singleton.1 hc]
        exact hlt
    | token kind =>
      obtain ⟨htokens, hrest⟩ := @ih (Gap.atStart (here.over p.text)) (here.over p.text) (by simp [Gap.atStart]) hps
      exact ⟨List.forall_mem_cons.2 ⟨⟨hlt, hgap⟩, htokens⟩, hrest⟩

theorem tokenize_solid {source : List UInt8} {k : Tokens} (h : tokenize source = some k) :
    (∀ t ∈ k.tokens, t.Solid) ∧ ∀ c ∈ k.rest.comments, c.Solid := by
  rw [tokenize_eq] at h
  obtain ⟨ps, hps, rfl⟩ := Option.map_eq_some_iff.1 h
  exact tokensOf_solid (by simp [Gap.atStart]) (pieces_text_ne_nil hps)

/-! ## Nodes that lie in a text -/

/-- Nodes that are not empty and lie one behind the other in a text of a length. -/
structure Laid (length : Nat) (nodes : List Node) : Prop where
  solid : ∀ n ∈ nodes, n.start.offset < n.stop.offset
  within : ∀ n ∈ nodes, n.stop.offset ≤ length
  ordered : nodes.Pairwise fun n m => n.stop.offset ≤ m.start.offset

theorem commentNodes_solid {g : Gap} (h : ∀ c ∈ g.comments, c.Solid) :
    ∀ n ∈ commentNodes g, n.start.offset < n.stop.offset := by
  intro n hn
  obtain ⟨c, hc, rfl⟩ := List.mem_map.1 hn
  exact h c hc

theorem nodesIn_solid {m : Mark} {behind : Gap} {cs : List Clause} (h : Follow m (tokensIn cs) behind.from_)
    (htokens : ∀ t ∈ tokensIn cs, t.Solid) (hbehind : ∀ c ∈ behind.comments, c.Solid) :
    ∀ n ∈ nodesIn behind cs, n.start.offset < n.stop.offset := by
  induction cs generalizing m with
  | nil => exact commentNodes_solid hbehind
  | cons c cs ih =>
    rw [tokensIn_cons] at h htokens
    obtain ⟨mid, hown, hrest⟩ := follow_append.1 h
    obtain ⟨mid', -, htail⟩ := follow_append.1 hrest
    have hfirst : c.first.Solid := htokens _ (by simp [Clause.own])
    intro n hn
    rw [nodesIn, List.mem_append, List.mem_cons, List.mem_append] at hn
    rcases hn with hn | rfl | hn | hn
    · exact commentNodes_solid hfirst.comments n hn
    · -- The item reaches over its first token at least.
      obtain ⟨-, -, -, hmore⟩ := hown
      simp only [Clause.node, stopOf_of_follow hrest]
      exact Nat.lt_of_lt_of_le hfirst.self hmore.le.1
    · obtain ⟨t, ht, hn⟩ := List.mem_flatMap.1 hn
      exact commentNodes_solid (htokens t (by simp [ht])).comments n hn
    · exact ih htail (fun t ht => htokens t (by simp [ht])) n hn

theorem InOrder.pairwise {m stop : Mark} {ns : List Node} (h : InOrder m ns stop) :
    ns.Pairwise fun n k => n.stop.offset ≤ k.start.offset := by
  induction ns generalizing m with
  | nil => exact .nil
  | cons n ns ih => exact .cons (fun k hk => (h.2.2.between hk).1.1) (ih h.2.2)

/-- **The nodes of a text** are not empty and lie in order. -/
theorem nodes_laid {source : List UInt8} {nodes : List Node} (h : nodes? source = some nodes) :
    Laid source.length nodes := by
  obtain ⟨p, rfl⟩ := nodes?_eq_some_iff.1 h
  obtain ⟨htokens, hrest⟩ := tokenize_solid p.tokenize
  have horder := p.nodes_inOrder
  refine ⟨nodesIn_solid (p.cut ▸ (tokenize_follow p.tokenize).1) (p.cut ▸ htokens) hrest, fun n hn => ?_,
    horder.pairwise⟩
  simpa [Mark.origin] using (horder.between hn).2.2.1

/-! ## Functions and their doc blocks among nodes -/

/-- A run of comments does not reach into nodes that no run reaches into. -/
theorem runAbove_within {before : List Node} (hbefore : ∀ row, runAbove row before = []) (above : List Node)
    (row : Nat) : ∃ rest, above = (runAbove row (above ++ before)).map .ofComment ++ rest := by
  induction above generalizing row with
  | nil => exact ⟨[], by simp [hbefore]⟩
  | cons n above ih =>
    simp only [List.cons_append, runAbove]
    cases hn : comment? n with
    | none => exact ⟨n :: above, rfl⟩
    | some c =>
      dsimp only
      split
      · obtain ⟨rest, hrest⟩ := ih c.start.row
        refine ⟨rest, ?_⟩
        rw [List.map_cons, List.cons_append, ← hrest, comment?_eq_some.1 hn]
      · exact ⟨n :: above, rfl⟩

/-- A function stands right behind its doc block. -/
theorem mem_ofNodesFrom (above : List Node) {before ns : List Node} (hbefore : ∀ row, runAbove row before = [])
    {d : Declaration} (h : d ∈ ofNodesFrom (above ++ before) ns) :
    ∃ front n after, above.reverse ++ ns = front ++ (d.doc.map .ofComment ++ n :: after) ∧
      n.kind = .item (.function d.function) ∧ n.start = d.start := by
  induction ns generalizing above with
  | nil => simp [ofNodesFrom] at h
  | cons n ns ih =>
    have hlater : d ∈ ofNodesFrom (n :: (above ++ before)) ns →
        ∃ front n' after, above.reverse ++ n :: ns = front ++ (d.doc.map .ofComment ++ n' :: after) ∧
          n'.kind = .item (.function d.function) ∧ n'.start = d.start := by
      intro h
      simpa using ih (n :: above) h
    rw [ofNodesFrom] at h
    split at h
    · rename_i f hkind
      rcases List.mem_cons.1 h with rfl | h
      · obtain ⟨rest, hrest⟩ := runAbove_within hbefore above n.start.row
        refine ⟨rest.reverse, n, ns, ?_, hkind, rfl⟩
        have habove := congrArg List.reverse hrest
        rw [List.reverse_append] at habove
        rw [habove, List.append_assoc, docBlock, List.map_reverse]
      · exact hlater h
    · exact hlater h

/-- A range starts with the first node of a doc block and its function. -/
theorem docStart_first {d : Declaration} {n : Node} (hstart : n.start = d.start) (after : List Node) :
    ∃ k rest, d.doc.map .ofComment ++ n :: after = k :: rest ∧ d.docStart = k.start := by
  unfold docStart
  cases d.doc with
  | nil => exact ⟨n, after, rfl, hstart.symm⟩
  | cons c doc => exact ⟨.ofComment c, _, rfl, rfl⟩

/-- The range in front of a function: its doc comments lie in it, and no part of another node does. -/
structure OwnRange (length : Nat) (nodes : List Node) (d : Declaration) : Prop where
  ordered : d.docStart.offset ≤ d.start.offset
  within : d.start.offset ≤ length
  doc : ∀ c ∈ d.doc, .ofComment c ∈ nodes ∧ c.start.offset < c.stop.offset ∧
    d.docStart.offset ≤ c.start.offset ∧ c.stop.offset ≤ d.start.offset
  others : ∀ n ∈ nodes, (∃ c ∈ d.doc, n = .ofComment c) ∨ n.stop.offset ≤ d.docStart.offset ∨
    d.start.offset ≤ n.start.offset

namespace Laid

variable {length : Nat} {nodes ns : List Node} {d : Declaration}

theorem sublist (h : Laid length nodes) (hns : ns.Sublist nodes) : Laid length ns :=
  ⟨fun n hn => h.solid n (hns.subset hn), fun n hn => h.within n (hns.subset hn), h.ordered.sublist hns⟩

/-- Nodes in order leave each function its own range. -/
theorem ownRange (h : Laid length nodes) (hd : d ∈ ofNodes nodes) : OwnRange length nodes d := by
  obtain ⟨front, n, after, hnodes, -, hstart⟩ := mem_ofNodesFrom [] (fun _ => rfl) hd
  rw [List.reverse_nil, List.nil_append] at hnodes
  subst hnodes
  have hrange := h.sublist (List.sublist_append_right front _)
  obtain ⟨-, hordered, hfront⟩ := List.pairwise_append.1 h.ordered
  obtain ⟨-, hbehind, hdoc⟩ := List.pairwise_append.1 hordered
  obtain ⟨k, rest, hblock, hdocStart⟩ := docStart_first hstart after
  have hfirst : ∀ m ∈ d.doc.map Node.ofComment ++ n :: after, d.docStart.offset ≤ m.start.offset := by
    rw [hblock] at hrange hordered ⊢
    rw [hdocStart]
    refine List.forall_mem_cons.2 ⟨Nat.le_refl _, fun m hm => ?_⟩
    exact Nat.le_trans (Nat.le_of_lt (hrange.solid k List.mem_cons_self)) ((List.pairwise_cons.1 hordered).1 m hm)
  have hsolid := hrange.solid n (by simp)
  have hlength := hrange.within n (by simp)
  refine ⟨hstart ▸ hfirst n (by simp), by rw [← hstart]; omega, fun c hc => ?_, fun m hm => ?_⟩
  · have hmem : Node.ofComment c ∈ d.doc.map Node.ofComment := List.mem_map_of_mem hc
    have hmem' := List.mem_append_left (n :: after) hmem
    refine ⟨List.mem_append_right front hmem', hrange.solid _ hmem', hfirst _ hmem', ?_⟩
    rw [← hstart]
    exact hdoc _ hmem n List.mem_cons_self
  · rcases List.mem_append.1 hm with hm | hm
    · refine .inr (.inl ?_)
      rw [hdocStart]
      exact hfront m hm k (by rw [hblock]; exact List.mem_cons_self)
    · rcases List.mem_append.1 hm with hm | hm
      · obtain ⟨c, hc, rfl⟩ := List.mem_map.1 hm
        exact .inl ⟨c, hc, rfl⟩
      · refine .inr (.inr ?_)
        rw [← hstart]
        rcases List.mem_cons.1 hm with rfl | hm
        · exact Nat.le_refl _
        · have hlater := (List.pairwise_cons.1 hbehind).1 m hm
          omega

/-- A range starts behind the start of every function before it. -/
theorem ranges_ordered (h : Laid length ns) (before : List Node) :
    (ofNodesFrom before ns).Pairwise fun d e => d.start.offset < e.docStart.offset := by
  induction ns generalizing before with
  | nil => exact .nil
  | cons n ns ih =>
    have hrest := h.sublist (List.sublist_cons_self n ns)
    rw [ofNodesFrom]
    split
    · rename_i f hkind
      refine .cons (fun e he => ?_) (ih hrest _)
      have hblocked : ∀ row, runAbove row (n :: before) = [] := by
        intro row
        simp only [runAbove, comment?, hkind]
      obtain ⟨front, k, after, hns, -, hstart⟩ := mem_ofNodesFrom [] hblocked he
      rw [List.reverse_nil, List.nil_append] at hns
      -- The range starts with a node behind `n`.
      obtain ⟨m, rest, hblock, hdocStart⟩ := docStart_first hstart after
      have hm : m ∈ ns := by
        rw [hns, hblock]
        simp
      rw [hdocStart]
      exact Nat.lt_of_lt_of_le (h.solid n List.mem_cons_self) ((List.pairwise_cons.1 h.ordered).1 m hm)
    · exact ih hrest _

/-- **Ranges of nodes in order**: each function has its own, each lies behind the functions before it,
and no comment is in two doc blocks. -/
theorem ranges (h : Laid length nodes) :
    (∀ d ∈ ofNodes nodes, OwnRange length nodes d) ∧
      (ofNodes nodes).Pairwise fun d e => d.start.offset < e.docStart.offset ∧ ∀ c ∈ d.doc, c ∉ e.doc := by
  refine ⟨fun d hd => h.ownRange hd, (h.ranges_ordered []).imp_of_mem fun {d e} hd he hlt => ⟨hlt, ?_⟩⟩
  intro c hc hc'
  obtain ⟨-, hsolid, -, hstop⟩ := (h.ownRange hd).doc c hc
  obtain ⟨-, -, hstart, -⟩ := (h.ownRange he).doc c hc'
  omega

end Laid

/-! ## What the ranges hold -/

/-- The byte with a number is in one of the comments, or is a blank or a line end. -/
def Unread (cs : List Comment) (i : Nat) (byte : Option UInt8) : Prop :=
  (∃ c ∈ cs, c.start.offset ≤ i ∧ i < c.stop.offset) ∨ ∃ b ∈ byte, isBlankByte b = true ∨ b = 0x0A

/-- No byte of a gap is part of a token. -/
theorem tokensOf_gap {gap g : Gap} {here : Mark} {ps : List Piece} {more : List Comment}
    (h : tokensOf gap here ps = ⟨[], g⟩) (hg : g.comments = gap.comments ++ more) (hps : ∀ p ∈ ps, p.Sound)
    {i : Nat} (hi : i < (textsOf ps).length) : Unread more (here.offset + i) (textsOf ps)[i]? := by
  induction ps generalizing gap here more i with
  | nil => simp at hi
  | cons p ps ih =>
    obtain ⟨hp, hps⟩ := List.forall_mem_cons.1 hps
    -- Behind the first lexeme, the rest of the gap goes on where it stops.
    have hbehind : ∀ {gap' more'}, tokensOf gap' (here.over p.text) ps = ⟨[], g⟩ →
        g.comments = gap'.comments ++ more' → more' ⊆ more → p.text.length ≤ i →
        Unread more (here.offset + i) (textsOf (p :: ps))[i]? := by
      intro gap' more' htokens hcomments hsub hle
      rw [textsOf_cons, List.length_append] at hi
      have hplace : (here.over p.text).offset + (i - p.text.length) = here.offset + i := by
        rw [Mark.over_offset]
        omega
      rcases ih htokens hcomments hps (i := i - p.text.length) (by omega) with ⟨c, hc, hin⟩ | hbyte
      · rw [hplace] at hin
        exact .inl ⟨c, hsub hc, hin⟩
      · rw [textsOf_cons, List.getElem?_append_right hle]
        exact .inr hbyte
    simp only [tokensOf] at h
    cases hk : p.lexeme with
    | blank =>
      rw [hk] at h
      obtain ⟨b, hb, htext⟩ := hp.blank hk
      by_cases hle : p.text.length ≤ i
      · exact hbehind h hg (List.Subset.refl _) hle
      · obtain rfl : i = 0 := by simp [htext] at hle; omega
        exact .inr ⟨b, by simp [htext], .inl hb⟩
    | newline =>
      rw [hk] at h
      have htext := hp.newline hk
      by_cases hle : p.text.length ≤ i
      · exact @hbehind { gap with newline := true } more h hg (List.Subset.refl _) hle
      · obtain rfl : i = 0 := by simp [htext] at hle; omega
        exact .inr ⟨0x0A, by simp [htext], .inr rfl⟩
    | comment =>
      rw [hk] at h
      obtain ⟨-, more', hmore'⟩ := tokensOf_no_token h
      have hmore : more = ⟨here, here.over p.text, p.text⟩ :: more' := by
        have hboth := hg.symm.trans hmore'
        rw [List.append_assoc] at hboth
        exact List.append_cancel_left hboth
      by_cases hle : p.text.length ≤ i
      · exact hbehind h hmore' (by simp [hmore]) hle
      · refine .inl ⟨_, by rw [hmore]; exact List.mem_cons_self, Nat.le_add_right _ _, ?_⟩
        rw [Mark.over_offset]
        omega
    | token kind =>
      rw [hk] at h
      cases congrArg Tokens.tokens h

/-- Between the doc block and its function there is no token. -/
theorem Site.doc_tokens {source : List UInt8} {p : Parsed source} {d : Declaration} (s : Site p d) :
    tokensOf ⟨s.clause.first.gap.from_, s.newline, s.kept⟩ d.docStart s.doc = ⟨[], s.clause.first.gap⟩ := by
  have htokenize := p.tokenize
  rw [tokenize_eq, s.pieces, Option.map_some, List.append_assoc, tokensOf_append, s.ahead_tokens, ← s.docStart_eq,
    tokensOf_append] at htokenize
  have htokens := congrArg Tokens.tokens (Option.some.inj htokenize)
  rw [s.tokens] at htokens
  have hrest := List.append_cancel_left htokens
  revert hrest
  generalize tokensOf ⟨s.clause.first.gap.from_, s.newline, s.kept⟩ d.docStart s.doc = k
  intro hrest
  obtain ⟨tokens, rest⟩ := k
  -- Wherever the tokens behind the function stand, they are as many.
  have hlength : ∀ m m' : Mark, (tokensOf (Gap.atStart m) m s.behind).tokens.length =
      (tokensOf (Gap.atStart m') m' s.behind).tokens.length := by
    intro m m'
    rw [tokensOf_atStart m, tokensOf_atStart m']
    simp [Tokens.moved]
  cases tokens with
  | nil =>
    simp only [tokensOf, List.nil_append, List.cons.injEq] at hrest
    rw [← hrest.1]
  | cons t tokens =>
    have hmany := congrArg List.length hrest
    simp only [tokensOf, List.length_append, List.length_cons] at hmany
    rw [hlength _ s.clause.first.stop] at hmany
    omega

/-- **What a range holds**: every byte of it is in a doc comment, or is a blank or a line end. -/
theorem docRange_bytes {source : List UInt8} {nodes : List Node} (h : nodes? source = some nodes) {d : Declaration}
    (hd : d ∈ ofNodes nodes) {i : Nat} (hlo : d.docStart.offset ≤ i) (hhi : i < d.start.offset) :
    Unread d.doc i source[i]? := by
  obtain ⟨p, rfl⟩ := nodes?_eq_some_iff.1 h
  obtain ⟨ds, es, hsplit⟩ := List.append_of_mem hd
  obtain ⟨s, -, -⟩ := exists_site p hsplit
  have hsound : ∀ q ∈ s.doc, q.Sound := fun q hq => pieces_sound s.pieces q (by simp [hq])
  have hstart := s.start_offset
  rw [List.length_append, ← s.docStart_offset] at hstart
  have hgap := tokensOf_gap s.doc_tokens s.comments hsound (i := i - d.docStart.offset) (by omega)
  rw [Nat.add_sub_cancel' hlo] at hgap
  refine hgap.imp_right fun ⟨b, hb, hblank⟩ => ⟨b, ?_, hblank⟩
  rw [s.source_eq, ← List.append_assoc, List.getElem?_append_right (by rw [← s.docStart_offset]; exact hlo),
    ← s.docStart_offset, List.getElem?_append_left (by omega)]
  exact hb

end RouteDoc.Go
