/-
The order of the text, in the places that tokens and nodes carry.

The lexer hands out places as it walks, so they never go back: the tokens of a
text follow each other (`tokenize_follow`), the comments of a gap lie between its
tokens, and the nodes of the top level are in order (`Parsed.nodes_inOrder`).
Where a gap has no line end, its comments start on the row where the text before
them stops.
-/
import RouteDoc.Proofs.Lexing.Locality
import RouteDoc.Proofs.TopLevel.Clauses

namespace RouteDoc.Go

open Grammar

/-- A place is not behind another one, neither in bytes nor in rows. -/
instance : LE Mark := ⟨fun m n => m.offset ≤ n.offset ∧ m.row ≤ n.row⟩

theorem Mark.le_refl (m : Mark) : m ≤ m := ⟨Nat.le_refl _, Nat.le_refl _⟩

theorem Mark.le_trans {m n k : Mark} (h : m ≤ n) (h' : n ≤ k) : m ≤ k :=
  ⟨Nat.le_trans h.1 h'.1, Nat.le_trans h.2 h'.2⟩

theorem Mark.le_over (m : Mark) (text : List UInt8) : m ≤ m.over text :=
  ⟨by simp, m.row_le_over text⟩

/-! ## Gaps -/

/-- Comments in order between two places; where `level` holds, no line ends outside of them. -/
def Chain (level : Bool) : Mark → List Comment → Mark → Prop
  | m, [], stop => m ≤ stop ∧ (level = true → m.row = stop.row)
  | m, c :: cs, stop =>
    m ≤ c.start ∧ (level = true → m.row = c.start.row) ∧ c.start ≤ c.stop ∧ Chain level c.stop cs stop

/-- The gap lies in front of a place. -/
def Gap.Spans (g : Gap) (stop : Mark) : Prop := Chain (!g.newline) g.from_ g.comments stop

namespace Chain

variable {level : Bool} {m stop stop' : Mark} {cs : List Comment}

theorem le (h : Chain level m cs stop) : m ≤ stop := by
  induction cs generalizing m with
  | nil => exact h.1
  | cons c cs ih => exact Mark.le_trans h.1 (Mark.le_trans h.2.2.1 (ih h.2.2.2))

theorem extend (h : Chain level m cs stop) (hle : stop ≤ stop')
    (hrow : level = true → stop.row = stop'.row) : Chain level m cs stop' := by
  induction cs generalizing m with
  | nil => exact ⟨Mark.le_trans h.1 hle, fun hl => (h.2 hl).trans (hrow hl)⟩
  | cons c cs ih => exact ⟨h.1, h.2.1, h.2.2.1, ih h.2.2.2⟩

theorem weaken (h : Chain level m cs stop) : Chain false m cs stop := by
  induction cs generalizing m with
  | nil => exact ⟨h.1, by simp⟩
  | cons c cs ih => exact ⟨h.1, by simp, h.2.2.1, ih h.2.2.2⟩

theorem snoc {c : Comment} (h : Chain level m cs c.start) (hc : c.start ≤ c.stop) :
    Chain level m (cs ++ [c]) c.stop := by
  induction cs generalizing m with
  | nil => exact ⟨h.1, h.2, hc, Mark.le_refl _, fun _ => rfl⟩
  | cons d cs ih => exact ⟨h.1, h.2.1, h.2.2.1, ih h.2.2.2⟩

end Chain

/-! ## Tokens -/

/-- Tokens that follow each other from one place to another. -/
def Follow : Mark → List Token → Mark → Prop
  | m, [], stop => m = stop
  | m, t :: ts, stop => t.gap.from_ = m ∧ t.gap.Spans t.start ∧ t.start ≤ t.stop ∧ Follow t.stop ts stop

theorem follow_append {m stop : Mark} {ts us : List Token} :
    Follow m (ts ++ us) stop ↔ ∃ mid, Follow m ts mid ∧ Follow mid us stop := by
  induction ts generalizing m with
  | nil => exact ⟨fun h => ⟨m, rfl, h⟩, fun ⟨_, h, h'⟩ => h ▸ h'⟩
  | cons t ts ih =>
    simp only [List.cons_append, Follow, ih]
    constructor
    · rintro ⟨h1, h2, h3, mid, h4, h5⟩; exact ⟨mid, ⟨h1, h2, h3, h4⟩, h5⟩
    · rintro ⟨mid, ⟨h1, h2, h3, h4⟩, h5⟩; exact ⟨h1, h2, h3, mid, h4, h5⟩

theorem Follow.le {m stop : Mark} {ts : List Token} (h : Follow m ts stop) : m ≤ stop := by
  induction ts generalizing m with
  | nil => exact h ▸ Mark.le_refl m
  | cons t ts ih => exact h.1 ▸ Mark.le_trans h.2.1.le (Mark.le_trans h.2.2.1 (ih h.2.2.2))

/-- What stands between tokens and is no comment is a blank or a line end. -/
structure Piece.Sound (p : Piece) : Prop where
  blank : p.lexeme = .blank → ∃ b, isBlankByte b = true ∧ p.text = [b]
  newline : p.lexeme = .newline → p.text = [0x0A]

theorem pieces_sound {bytes : List UInt8} {ps : List Piece} (h : pieces 0 bytes = some ps) :
    ∀ p ∈ ps, p.Sound := by
  intro p hp
  obtain ⟨ps₁, ps₂, rfl⟩ := List.append_of_mem hp
  obtain ⟨b, rest, n, hl, ht, -⟩ := pieces_mid h
  have hr := Reading.of_lexemeAt hl
  constructor
  · intro hk
    rw [hk] at hr
    cases hr with | blank hb => exact ⟨b, hb, by rw [ht]; rfl⟩
  · intro hk
    rw [hk] at hr
    cases hr with | newline hb => rw [ht, hb]; rfl

theorem tokensOf_follow {gap : Gap} {here : Mark} {ps : List Piece} (hgap : gap.Spans here)
    (hps : ∀ p ∈ ps, p.Sound) :
    Follow gap.from_ (tokensOf gap here ps).tokens (tokensOf gap here ps).rest.from_ ∧
      (tokensOf gap here ps).rest.Spans (here.over (textsOf ps)) := by
  induction ps generalizing gap here with
  | nil => exact ⟨rfl, hgap⟩
  | cons p ps ih =>
    obtain ⟨hp, hps⟩ := List.forall_mem_cons.1 hps
    have hle := here.le_over p.text
    simp only [tokensOf, textsOf_cons, Mark.over_append]
    cases hk : p.lexeme with
    | blank =>
      obtain ⟨b, hb, ht⟩ := hp.blank hk
      refine ih (hgap.extend hle fun _ => (Mark.over_row_of_not_mem ?_).symm) hps
      rw [ht, List.mem_singleton]
      rintro rfl
      cases hb
    | newline => exact @ih { gap with newline := true } _ (hgap.weaken.extend hle (by simp)) hps
    | comment =>
      exact @ih { gap with comments := gap.comments ++ [⟨here, here.over p.text, p.text⟩] } _
        (hgap.snoc (c := ⟨here, here.over p.text, p.text⟩) hle) hps
    | token kind =>
      have hstart : (Gap.atStart (here.over p.text)).Spans (here.over p.text) :=
        ⟨Mark.le_refl _, fun _ => rfl⟩
      obtain ⟨h1, h2⟩ := ih hstart hps
      exact ⟨⟨rfl, hgap, hle, h1⟩, h2⟩

/-- **The tokens of a text follow each other.** -/
theorem tokenize_follow {source : List UInt8} {k : Tokens} (h : tokenize source = some k) :
    Follow (startOf source) k.tokens k.rest.from_ ∧ k.rest.Spans (Mark.origin.over source) := by
  rw [tokenize_eq] at h
  obtain ⟨ps, hps, rfl⟩ := Option.map_eq_some_iff.1 h
  have hstart : (Gap.atStart (startOf source)).Spans (startOf source) := ⟨Mark.le_refl _, fun _ => rfl⟩
  have hover : (startOf source).over (textsOf ps) = Mark.origin.over source := by
    rw [textsOf_pieces hps, startOf, ← Mark.over_append, leadOf_append_bodyOf]
  exact hover ▸ tokensOf_follow hstart (pieces_sound hps)

/-! ## Nodes -/

/-- Nodes in order between two places. -/
def InOrder : Mark → List Node → Mark → Prop
  | m, [], stop => m ≤ stop
  | m, n :: ns, stop => m ≤ n.start ∧ n.start ≤ n.stop ∧ InOrder n.stop ns stop

namespace InOrder

variable {m stop : Mark} {ns ns' : List Node}

theorem append {mid : Mark} (h : InOrder m ns mid) (h' : InOrder mid ns' stop) :
    InOrder m (ns ++ ns') stop := by
  induction ns generalizing m with
  | nil =>
    cases ns' with
    | nil => exact Mark.le_trans h h'
    | cons n ns' => exact ⟨Mark.le_trans h h'.1, h'.2⟩
  | cons n ns ih => exact ⟨h.1, h.2.1, ih h.2.2⟩

theorem le (h : InOrder m ns stop) : m ≤ stop := by
  induction ns generalizing m with
  | nil => exact h
  | cons n ns ih => exact Mark.le_trans h.1 (Mark.le_trans h.2.1 (ih h.2.2))

theorem extend {stop' : Mark} (h : InOrder m ns stop) (hle : stop ≤ stop') : InOrder m ns stop' := by
  have happend : InOrder m (ns ++ []) stop' := h.append hle
  simpa using happend

theorem split (h : InOrder m (ns ++ ns') stop) : ∃ mid, InOrder m ns mid ∧ InOrder mid ns' stop := by
  induction ns generalizing m with
  | nil => exact ⟨m, Mark.le_refl m, h⟩
  | cons n ns ih =>
    obtain ⟨mid, h1, h2⟩ := ih h.2.2
    exact ⟨mid, ⟨h.1, h.2.1, h1⟩, h2⟩

theorem between {n : Node} (h : InOrder m ns stop) (hn : n ∈ ns) :
    m ≤ n.start ∧ n.start ≤ n.stop ∧ n.stop ≤ stop := by
  obtain ⟨ns₁, ns₂, rfl⟩ := List.append_of_mem hn
  obtain ⟨mid, h1, h2⟩ := h.split
  exact ⟨Mark.le_trans h1.le h2.1, h2.2.1, h2.2.2.le⟩

end InOrder

theorem Chain.inOrder {level : Bool} {m stop : Mark} {cs : List Comment} (h : Chain level m cs stop) :
    InOrder m (cs.map .ofComment) stop := by
  induction cs generalizing m with
  | nil => exact h.1
  | cons c cs ih => exact ⟨h.1, h.2.2.1, ih h.2.2.2⟩

theorem Gap.Spans.inOrder {g : Gap} {stop : Mark} (h : g.Spans stop) :
    InOrder g.from_ (commentNodes g) stop := Chain.inOrder h

/-- Where an item stops. -/
theorem stopOf_of_follow {m : Mark} {behind : Gap} {ts : List Token} (h : Follow m ts behind.from_) :
    stopOf behind ts = m := by
  cases ts with
  | nil => exact h.symm
  | cons t ts => exact h.1

theorem nodesIn_inOrder {m stop : Mark} {behind : Gap} {cs : List Clause}
    (h : Follow m (tokensIn cs) behind.from_) (hbehind : behind.Spans stop) :
    InOrder m (nodesIn behind cs) stop := by
  induction cs generalizing m with
  | nil => exact h ▸ hbehind.inOrder
  | cons c cs ih =>
    rw [tokensIn_cons] at h
    obtain ⟨mid, hown, hrest⟩ := follow_append.1 h
    have hstop := stopOf_of_follow hrest
    obtain ⟨hfrom, hspans, hle, hmore⟩ := hown
    have hfirst : InOrder m (commentNodes c.first.gap) c.first.start := hfrom ▸ hspans.inOrder
    refine hfirst.append ⟨Mark.le_refl _, ?_, ?_⟩
    · simp only [Clause.node, hstop]
      exact Mark.le_trans hle hmore.le
    simp only [Clause.node, hstop]
    obtain ⟨mid', hcloser, htail⟩ := follow_append.1 hrest
    have hnext := ih htail
    unfold Clause.closing
    cases hc : c.closer with
    | none =>
      rw [hc] at hcloser
      obtain rfl : mid = mid' := hcloser
      exact hnext
    | some t =>
      rw [hc] at hcloser
      obtain ⟨hfrom, hspans, hle, rfl⟩ := hcloser
      have hclosing : InOrder mid (commentNodes t.gap) t.start := hfrom ▸ hspans.inOrder
      simp only [Option.toList_some, List.flatMap_singleton]
      exact (hclosing.extend hle).append hnext

/-- **The nodes of a text are in order.** -/
theorem Parsed.nodes_inOrder {source : List UInt8} (p : Parsed source) :
    InOrder (startOf source) p.nodes (Mark.origin.over source) := by
  obtain ⟨hfollow, hrest⟩ := tokenize_follow p.tokenize
  exact nodesIn_inOrder (p.cut ▸ hfollow) hrest

end RouteDoc.Go
