/-
The walk over a source text, cut into pieces.

`pieces` cuts a text into its lexemes, and `tokensOf` puts the tokens and the
gaps between them together from such pieces. `tokenize_eq`: that is what the
walk of the lexer does. A text can then be taken apart at any lexeme
(`tokensOf_append`, `tokensOf_split`), and where it starts is a matter of
addition (`tokensOf_moved`).
-/
import RouteDoc.Go.Lexer

namespace RouteDoc.Go

/-! ## Places -/

/-- The place `m`, counted from `base` on. -/
def Mark.add (base m : Mark) : Mark := ⟨base.offset + m.offset, base.row + m.row⟩

instance : Add Mark := ⟨Mark.add⟩

@[simp] theorem Mark.add_offset (base m : Mark) : (base + m).offset = base.offset + m.offset := rfl

@[simp] theorem Mark.add_row (base m : Mark) : (base + m).row = base.row + m.row := rfl

@[ext] theorem Mark.ext' {m n : Mark} (ho : m.offset = n.offset) (hr : m.row = n.row) : m = n := by
  cases m; cases n; simp_all

@[simp] theorem Mark.add_origin (m : Mark) : m + Mark.origin = m := Mark.ext' rfl rfl

theorem Mark.add_step (base m : Mark) (b : UInt8) : base + m.step b = (base + m).step b := by
  apply Mark.ext'
  · simp [Mark.step, Nat.add_assoc]
  · simp only [Mark.step, Mark.add_row]
    split <;> omega

@[simp] theorem Mark.over_nil (m : Mark) : m.over [] = m := rfl

@[simp] theorem Mark.over_cons (m : Mark) (b : UInt8) (text : List UInt8) :
    m.over (b :: text) = (m.step b).over text := rfl

theorem Mark.over_append (m : Mark) (s t : List UInt8) : m.over (s ++ t) = (m.over s).over t := by
  simp [Mark.over, List.foldl_append]

theorem Mark.add_over (base m : Mark) (text : List UInt8) :
    base + m.over text = (base + m).over text := by
  induction text generalizing m with
  | nil => rfl
  | cons b text ih => rw [Mark.over_cons, Mark.over_cons, ih, Mark.add_step]

/-- A place is where the text before it leads. -/
theorem Mark.over_eq (m : Mark) (text : List UInt8) : m.over text = m + Mark.origin.over text := by
  rw [Mark.add_over, Mark.add_origin]

@[simp] theorem Mark.over_offset (m : Mark) (text : List UInt8) :
    (m.over text).offset = m.offset + text.length := by
  induction text generalizing m with
  | nil => rfl
  | cons b text ih =>
    rw [Mark.over_cons, ih]
    simp [Mark.step]; omega

theorem Mark.row_le_over (m : Mark) (text : List UInt8) : m.row ≤ (m.over text).row := by
  rw [Mark.over_eq]; simp

/-- A text without line ends stays on its row. -/
theorem Mark.over_row_of_not_mem {m : Mark} {text : List UInt8} (h : (0x0A : UInt8) ∉ text) :
    (m.over text).row = m.row := by
  induction text generalizing m with
  | nil => rfl
  | cons b text ih =>
    simp only [List.mem_cons, not_or] at h
    rw [Mark.over_cons, ih h.2]
    simp [Mark.step, Ne.symm h.1]

def Comment.moved (base : Mark) (c : Comment) : Comment := ⟨base + c.start, base + c.stop, c.text⟩

def Gap.moved (base : Mark) (g : Gap) : Gap :=
  ⟨base + g.from_, g.newline, g.comments.map (·.moved base)⟩

def Token.moved (base : Mark) (t : Token) : Token :=
  ⟨t.kind, t.text, base + t.start, base + t.stop, t.gap.moved base⟩

def Tokens.moved (base : Mark) (k : Tokens) : Tokens :=
  ⟨k.tokens.map (·.moved base), k.rest.moved base⟩

/-! ## Pieces -/

/-- A lexeme with its bytes. -/
structure Piece where
  lexeme : Lexeme
  text : List UInt8
  deriving DecidableEq

/-- The bytes of pieces, in a row. -/
def textsOf (ps : List Piece) : List UInt8 := ps.flatMap (·.text)

@[simp] theorem textsOf_nil : textsOf [] = [] := rfl

@[simp] theorem textsOf_cons (p : Piece) (ps : List Piece) : textsOf (p :: ps) = p.text ++ textsOf ps :=
  rfl

@[simp] theorem textsOf_append (ps qs : List Piece) : textsOf (ps ++ qs) = textsOf ps ++ textsOf qs := by
  simp [textsOf]

/-- The lexemes of a text behind `skip` more bytes; none where some byte belongs to no lexeme. -/
def pieces : Nat → List UInt8 → Option (List Piece)
  | _, [] => some []
  | skip + 1, _ :: rest => pieces skip rest
  | 0, b :: rest =>
    match lexemeAt b rest with
    | none => none
    | some (lexeme, n) => (pieces n rest).map (⟨lexeme, b :: rest.take n⟩ :: ·)

theorem pieces_skip (skip : Nat) (bytes : List UInt8) : pieces skip bytes = pieces 0 (bytes.drop skip) := by
  induction bytes generalizing skip with
  | nil => cases skip <;> rfl
  | cons b rest ih =>
    cases skip with
    | zero => rfl
    | succ skip => simpa [pieces] using ih skip

theorem pieces_cons (b : UInt8) (rest : List UInt8) :
    pieces 0 (b :: rest) = (lexemeAt b rest).bind fun e =>
      (pieces 0 (rest.drop e.2)).map (⟨e.1, b :: rest.take e.2⟩ :: ·) := by
  rw [pieces]
  split <;> simp_all [pieces_skip]

theorem pieces_eq_nil {bytes : List UInt8} (h : pieces 0 bytes = some []) : bytes = [] := by
  cases bytes with
  | nil => rfl
  | cons b rest =>
    rw [pieces_cons] at h
    obtain ⟨e, -, h⟩ := Option.bind_eq_some_iff.1 h
    obtain ⟨qs, -, h⟩ := Option.map_eq_some_iff.1 h
    cases h

/-- The first piece is the first lexeme, and the others are those of what is left behind it. -/
theorem pieces_eq_cons {bytes : List UInt8} {p : Piece} {ps : List Piece} (h : pieces 0 bytes = some (p :: ps)) :
    ∃ b rest n, bytes = b :: rest ∧ lexemeAt b rest = some (p.lexeme, n) ∧ p.text = b :: rest.take n ∧
      pieces 0 (rest.drop n) = some ps := by
  cases bytes with
  | nil => simp [pieces] at h
  | cons b rest =>
    rw [pieces_cons] at h
    obtain ⟨⟨lexeme, n⟩, hl, h⟩ := Option.bind_eq_some_iff.1 h
    obtain ⟨qs, hqs, h⟩ := Option.map_eq_some_iff.1 h
    obtain ⟨rfl, rfl⟩ := List.cons.inj h
    exact ⟨b, rest, n, rfl, hl, rfl, hqs⟩

/-- No byte is lost. -/
theorem textsOf_pieces {bytes : List UInt8} {ps : List Piece} (h : pieces 0 bytes = some ps) :
    textsOf ps = bytes := by
  induction ps generalizing bytes with
  | nil => rw [pieces_eq_nil h, textsOf_nil]
  | cons p ps ih =>
    obtain ⟨b, rest, n, rfl, -, ht, hps⟩ := pieces_eq_cons h
    rw [textsOf_cons, ht, ih hps, List.cons_append, List.take_append_drop]

/-! ## Tokens from pieces -/

/-- The tokens of pieces and the gap behind them; `gap` is the gap before them so far. -/
def tokensOf (gap : Gap) (here : Mark) : List Piece → Tokens
  | [] => ⟨[], gap⟩
  | p :: ps =>
    let stop := here.over p.text
    match p.lexeme with
    | .blank => tokensOf gap stop ps
    | .newline => tokensOf { gap with newline := true } stop ps
    | .comment => tokensOf { gap with comments := gap.comments ++ [⟨here, stop, p.text⟩] } stop ps
    | .token kind =>
      let behind := tokensOf (Gap.atStart stop) stop ps
      ⟨⟨kind, p.text, here, stop, gap⟩ :: behind.tokens, behind.rest⟩

theorem scan_eq (found : List Token) (gap : Gap) (here : Mark) (skip : Nat) (bytes : List UInt8) :
    scan found gap here skip bytes = (pieces skip bytes).map fun ps =>
      let k := tokensOf { gap with comments := gap.comments.reverse } (here.over (bytes.take skip)) ps
      ⟨found.reverse ++ k.tokens, k.rest⟩ := by
  induction bytes generalizing found gap here skip with
  | nil => cases skip <;> simp [scan, pieces, tokensOf]
  | cons b rest ih =>
    cases skip with
    | succ skip => simp only [scan, pieces, ih, List.take_succ_cons, Mark.over_cons]
    | zero =>
      simp only [scan, pieces]
      rcases lexemeAt b rest with - | ⟨lexeme, n⟩
      · rfl
      · cases lexeme <;>
          simp [ih, tokensOf, Option.map_map, Function.comp_def, Gap.atStart]

/-- The bytes in front of the text proper. -/
def leadOf (source : List UInt8) : List UInt8 :=
  if byteOrderMark.isPrefixOf source then byteOrderMark else []

/-- The text proper. -/
def bodyOf (source : List UInt8) : List UInt8 := source.drop (leadOf source).length

theorem leadOf_append_bodyOf (source : List UInt8) : leadOf source ++ bodyOf source = source := by
  unfold bodyOf leadOf
  split
  · rename_i h
    obtain ⟨rest, rfl⟩ := List.isPrefixOf_iff_prefix.1 h
    simp
  · simp

/-- Where the text proper starts. -/
def startOf (source : List UInt8) : Mark := Mark.origin.over (leadOf source)

theorem tokenize_eq (source : List UInt8) :
    tokenize source =
      (pieces 0 (bodyOf source)).map (tokensOf (Gap.atStart (startOf source)) (startOf source)) := by
  unfold tokenize startOf bodyOf leadOf
  split <;> simp [scan_eq, Gap.atStart, Mark.origin, byteOrderMark, Mark.step]

theorem tokensOf_append (gap : Gap) (here : Mark) (ps qs : List Piece) :
    tokensOf gap here (ps ++ qs) =
      ⟨(tokensOf gap here ps).tokens ++
          (tokensOf (tokensOf gap here ps).rest (here.over (textsOf ps)) qs).tokens,
        (tokensOf (tokensOf gap here ps).rest (here.over (textsOf ps)) qs).rest⟩ := by
  induction ps generalizing gap here with
  | nil => rfl
  | cons p ps ih =>
    rw [List.cons_append]
    simp only [tokensOf, textsOf_cons, Mark.over_append]
    split <;> simp [ih]

theorem tokensOf_moved (base here : Mark) (gap : Gap) (ps : List Piece) :
    tokensOf (gap.moved base) (base + here) ps = (tokensOf gap here ps).moved base := by
  induction ps generalizing gap here with
  | nil => rfl
  | cons p ps ih =>
    simp only [tokensOf, ← Mark.add_over]
    cases p.lexeme with
    | blank => exact ih ..
    | newline => exact ih _ { gap with newline := true }
    | comment =>
      have h := ih (here.over p.text)
        { gap with comments := gap.comments ++ [⟨here, here.over p.text, p.text⟩] }
      simpa [Gap.moved, Comment.moved] using h
    | token kind =>
      have h := ih (here.over p.text) (Gap.atStart (here.over p.text))
      have hg : (Gap.atStart (here.over p.text)).moved base = Gap.atStart (base + here.over p.text) := rfl
      rw [hg] at h
      simp [h, Tokens.moved, Token.moved]

/-- Behind a token nothing depends on where it stands. -/
theorem tokensOf_atStart (here : Mark) (ps : List Piece) :
    tokensOf (Gap.atStart here) here ps = (tokensOf (Gap.atStart .origin) .origin ps).moved here := by
  rw [← tokensOf_moved, Mark.add_origin]
  rfl

/-- The pieces before and behind a token. -/
theorem tokensOf_split {gap : Gap} {here : Mark} {ps : List Piece} {before behind : List Token}
    {t : Token} (h : (tokensOf gap here ps).tokens = before ++ t :: behind) :
    ∃ ps₁ ps₂, ps = ps₁ ++ ⟨.token t.kind, t.text⟩ :: ps₂ ∧ tokensOf gap here ps₁ = ⟨before, t.gap⟩ ∧
      t.start = here.over (textsOf ps₁) ∧ t.stop = t.start.over t.text ∧
      tokensOf gap here ps =
        ⟨before ++ t :: (tokensOf (Gap.atStart t.stop) t.stop ps₂).tokens,
          (tokensOf (Gap.atStart t.stop) t.stop ps₂).rest⟩ := by
  induction ps generalizing gap here before with
  | nil => simp [tokensOf] at h
  | cons p ps ih =>
    obtain ⟨lexeme, text⟩ := p
    simp only [tokensOf] at h ⊢
    cases lexeme with
    | blank | newline | comment =>
      obtain ⟨ps₁, ps₂, rfl, h₁, hs, hstop, hall⟩ := ih h
      exact ⟨_ :: ps₁, ps₂, rfl, by simpa [tokensOf] using h₁, by simpa [Mark.over_append] using hs,
        hstop, hall⟩
    | token kind =>
      cases before with
      | nil =>
        simp only [List.nil_append, List.cons.injEq] at h
        obtain ⟨rfl, rfl⟩ := h
        exact ⟨[], ps, rfl, rfl, rfl, rfl, rfl⟩
      | cons u before =>
        simp only [List.cons_append, List.cons.injEq] at h
        obtain ⟨rfl, h⟩ := h
        obtain ⟨ps₁, ps₂, rfl, h₁, hs, hstop, hall⟩ := ih h
        exact ⟨_ :: ps₁, ps₂, rfl, by simp [tokensOf, h₁], by simpa [Mark.over_append] using hs,
          hstop, by simp [hall]⟩

end RouteDoc.Go
