/-
Outlines of source texts.

The outline of tokens is what is left of them without their places and without
the comments between them: kinds, texts and line ends. It follows from the
lexemes of the text that are neither blanks nor comments (`tokenize_outline`), so
blanks and comments can be put between lexemes, or taken away, and the outline
stays.
-/
import RouteDoc.Proofs.Lexing.Pieces

namespace RouteDoc.Go

/-- Whether a piece is neither a blank nor a comment. -/
def Piece.isSolid (p : Piece) : Bool :=
  match p.lexeme with
  | .blank | .comment => false
  | .newline | .token _ => true

/-- The pieces of a text that are neither blanks nor comments. -/
def solids (source : List UInt8) : Option (List Piece) :=
  (pieces 0 (bodyOf source)).map (List.filter Piece.isSolid)

/-- The kind and the text of a token, and whether a line ends in front of it. -/
def Token.outline (t : Token) : TokenKind × List UInt8 × Bool := (t.kind, t.text, t.newline)

/-- The outlines of tokens, and whether a line ends behind them. -/
def Tokens.outline (k : Tokens) : List (TokenKind × List UInt8 × Bool) × Bool :=
  (k.tokens.map Token.outline, k.rest.newline)

/-- The outline of the tokens of pieces; `newline` tells whether a line ended in front of them. -/
def outlineOf (newline : Bool) : List Piece → List (TokenKind × List UInt8 × Bool) × Bool
  | [] => ([], newline)
  | p :: ps =>
    match p.lexeme with
    | .blank | .comment => outlineOf newline ps
    | .newline => outlineOf true ps
    | .token kind =>
      let behind := outlineOf false ps
      ((kind, p.text, newline) :: behind.1, behind.2)

theorem outline_tokensOf (gap : Gap) (here : Mark) (ps : List Piece) :
    (tokensOf gap here ps).outline = outlineOf gap.newline ps := by
  induction ps generalizing gap here with
  | nil => rfl
  | cons p ps ih =>
    rw [tokensOf, outlineOf]
    cases p.lexeme with
    | blank => exact ih gap _
    | newline => exact ih { gap with newline := true } _
    | comment => exact ih _ _
    | token kind =>
      have hbehind := ih (Gap.atStart (here.over p.text)) (here.over p.text)
      show ((kind, p.text, gap.newline) :: (tokensOf (Gap.atStart (here.over p.text)) (here.over p.text) ps).outline.1,
        (tokensOf (Gap.atStart (here.over p.text)) (here.over p.text) ps).outline.2) = _
      rw [hbehind]
      rfl

theorem outlineOf_filter (newline : Bool) (ps : List Piece) :
    outlineOf newline (ps.filter Piece.isSolid) = outlineOf newline ps := by
  induction ps generalizing newline with
  | nil => rfl
  | cons p ps ih =>
    rw [List.filter_cons]
    cases hlexeme : p.lexeme with
    | blank | comment => simp only [Piece.isSolid, outlineOf, hlexeme, ih, Bool.false_eq_true, if_false]
    | newline | token => simp only [Piece.isSolid, outlineOf, hlexeme, ih, if_true]

/-- **The outline follows from the solid pieces.** -/
theorem tokenize_outline {source source' : List UInt8} (h : solids source' = solids source) {k : Tokens}
    (hk : tokenize source = some k) : ∃ k', tokenize source' = some k' ∧ k'.outline = k.outline := by
  rw [tokenize_eq] at hk
  obtain ⟨ps, hps, rfl⟩ := Option.map_eq_some_iff.1 hk
  rw [solids, solids, hps, Option.map_some] at h
  obtain ⟨qs, hqs, hsolid⟩ := Option.map_eq_some_iff.1 h
  refine ⟨_, by rw [tokenize_eq, hqs, Option.map_some], ?_⟩
  rw [outline_tokensOf, outline_tokensOf, ← outlineOf_filter _ qs, hsolid, outlineOf_filter]
  rfl

end RouteDoc.Go
