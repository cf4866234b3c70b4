/-
Line comments put into a text.

`commentLines` are line comments, each on a line of its own. In front of any text
they are read as those comments (`pieces_commentLines`, `tokensOf_linePieces`),
on rows that follow each other, so the last one documents what comes next
(`runAbove_lines`).

The second half is about the place in front of which they are put: the start of
the doc block of a function, or of the function itself. The lexeme in front of
it can be read without looking ahead (`closes_before_doc`,
`closes_before_function`).
-/
import RouteDoc.Proofs.TopLevel.Shift

namespace RouteDoc.Go

open Declaration

/-- A line comment without its line end. -/
def lineText (line : List UInt8) : List UInt8 := 0x2F :: 0x2F :: line

/-- Line comments, each with its line end. -/
def commentLines (lines : List (List UInt8)) : List UInt8 := lines.flatMap fun l => lineText l ++ [0x0A]

/-- Bytes that stay on their line. -/
def Plain (line : List UInt8) : Prop := (0x0A : UInt8) ∉ line ∧ (0 : UInt8) ∉ line

def linePieces (lines : List (List UInt8)) : List Piece :=
  lines.flatMap fun l => [⟨.comment, lineText l⟩, ⟨.newline, [0x0A]⟩]

/-- The comments that line comments from a place on are. -/
def lineComments (here : Mark) : List (List UInt8) → List Comment
  | [] => []
  | l :: ls =>
    ⟨here, here.over (lineText l), lineText l⟩ :: lineComments (here.over (lineText l ++ [0x0A])) ls

@[simp] theorem commentLines_cons (l : List UInt8) (ls : List (List UInt8)) :
    commentLines (l :: ls) = lineText l ++ [0x0A] ++ commentLines ls := rfl

@[simp] theorem linePieces_cons (l : List UInt8) (ls : List (List UInt8)) :
    linePieces (l :: ls) = ⟨.comment, lineText l⟩ :: ⟨.newline, [0x0A]⟩ :: linePieces ls := rfl

/-! ## Reading line comments -/

theorem lexemeAt_line {line : List UInt8} (h : Plain line) (s : List UInt8) :
    lexemeAt 0x2F (0x2F :: line ++ 0x0A :: s) = some (.comment, line.length + 1) := by
  have hline : lineLength (0x2F :: (line ++ 0x0A :: s)) = line.length + 1 := by
    have hall : ∀ b ∈ line, (b != 0x0A && b != 0) = true := by
      intro b hb
      simp only [Bool.and_eq_true, bne_iff_ne]
      exact ⟨fun heq => h.1 (heq ▸ hb), fun heq => h.2 (heq ▸ hb)⟩
    unfold lineLength
    rw [List.takeWhile_cons_of_pos (by decide), List.takeWhile_append_of_pos hall,
      List.takeWhile_cons_of_neg (by simp)]
    simp
  simp [lexemeAt, isBlankByte, hline]

theorem pieces_commentLines {ls : List (List UInt8)} (h : ∀ l ∈ ls, Plain l) (s : List UInt8) :
    pieces 0 (commentLines ls ++ s) = (pieces 0 s).map (linePieces ls ++ ·) := by
  induction ls with
  | nil => simp [commentLines, linePieces]
  | cons l ls ih =>
    obtain ⟨hl, hls⟩ := List.forall_mem_cons.1 h
    have hbytes : commentLines (l :: ls) ++ s =
        0x2F :: (0x2F :: l ++ 0x0A :: (commentLines ls ++ s)) := by
      simp [lineText]
    have hlen : (0x2F :: l).length = l.length + 1 := rfl
    rw [hbytes, pieces_cons, lexemeAt_line hl]
    simp only [Option.bind_some, List.take_left' hlen, List.drop_left' hlen]
    rw [pieces_cons]
    have hnewline : lexemeAt 0x0A (commentLines ls ++ s) = some (.newline, 0) := by
      simp [lexemeAt, isBlankByte]
    simp [hnewline, ih hls, Option.map_map, Function.comp_def, lineText]

theorem tokensOf_linePieces (gap : Gap) (here : Mark) (ls : List (List UInt8)) (ps : List Piece) :
    tokensOf gap here (linePieces ls ++ ps) =
      tokensOf ⟨gap.from_, gap.newline || !ls.isEmpty, gap.comments ++ lineComments here ls⟩
        (here.over (commentLines ls)) ps := by
  induction ls generalizing gap here with
  | nil => simp [linePieces, commentLines, lineComments]
  | cons l ls ih =>
    simp only [linePieces_cons, List.cons_append, tokensOf, ih, commentLines_cons, lineComments,
      Mark.over_append]
    simp

/-! ## Rows -/

theorem Plain.row {line : List UInt8} (h : Plain line) (m : Mark) : (m.over (lineText line)).row = m.row := by
  apply Mark.over_row_of_not_mem
  simp [lineText, h.1]

theorem commentLines_row {ls : List (List UInt8)} (h : ∀ l ∈ ls, Plain l) (m : Mark) :
    (m.over (commentLines ls)).row = m.row + ls.length := by
  induction ls generalizing m with
  | nil => rfl
  | cons l ls ih =>
    obtain ⟨hl, hls⟩ := List.forall_mem_cons.1 h
    rw [commentLines_cons, Mark.over_append, ih hls, Mark.over_append]
    have := hl.row m
    simp [Mark.step, this]
    omega

theorem lineComments_append (m : Mark) (ls ls' : List (List UInt8)) :
    lineComments m (ls ++ ls') = lineComments m ls ++ lineComments (m.over (commentLines ls)) ls' := by
  induction ls generalizing m with
  | nil => rfl
  | cons l ls ih => simp [lineComments, ih, Mark.over_append]

/-- The last of several line comments documents what comes behind them. -/
theorem runAbove_lines {ls : List (List UInt8)} {l' l : List UInt8} (h : ∀ k ∈ ls ++ [l', l], Plain k)
    (m : Mark) (before : List Node) :
    ∃ c ∈ runAbove (m.over (commentLines (ls ++ [l', l]))).row
      (((lineComments m (ls ++ [l', l])).map .ofComment).reverse ++ before), c.text = lineText l := by
  have hls : ∀ k ∈ ls, Plain k := fun k hk => h k (by simp [hk])
  have hl' : Plain l' := h l' (by simp)
  have hl : Plain l := h l (by simp)
  have hrow := commentLines_row h m
  have hfront := commentLines_row hls m
  rw [lineComments_append]
  generalize m.over (commentLines ls) = m' at hfront
  have hstep : (m'.over (lineText l' ++ [0x0A])).row = m'.row + 1 := by
    rw [Mark.over_append]
    simp [Mark.step, hl'.row]
  simp only [lineComments, List.map_append, List.map_cons, List.map_nil, List.reverse_append,
    List.reverse_cons, List.reverse_nil, List.nil_append, List.cons_append, runAbove, comment?_ofComment]
  have hcond : (((m'.over (lineText l' ++ [0x0A])).over (lineText l)).row + 1 ==
      (m.over (commentLines (ls ++ [l', l]))).row) = true := by
    rw [beq_iff_eq, hl.row, hstep, hrow, hfront]
    simp
    omega
  have htrails : ∀ rest, trails (.ofComment ⟨m'.over (lineText l' ++ [0x0A]),
      (m'.over (lineText l' ++ [0x0A])).over (lineText l), lineText l⟩)
      (.ofComment ⟨m', m'.over (lineText l'), lineText l'⟩ :: rest) = false := by
    intro rest
    simp [trails, Node.ofComment, hl'.row, hstep]
  rw [hcond, htrails]
  exact ⟨_, List.mem_cons_self, rfl⟩

/-! ## In front of a function -/

theorem blockLength_le {n m : Nat} {s : List UInt8} (h : blockLength n s = some m) : m ≤ n + s.length := by
  fun_induction blockLength n s with
  | case1 => cases h
  | case2 => simp at h ⊢; omega
  | case3 => cases h
  | case4 _ _ _ _ _ ih => have := ih h; simp; omega

/-- A line comment is followed by a line end, or by nothing. -/
theorem lineLength_drop (s : List UInt8) {b : UInt8} {rest : List UInt8}
    (h : s.drop (lineLength s) = b :: rest) : b = 0x0A ∨ b = 0 := by
  unfold lineLength at h
  induction s with
  | nil => simp at h
  | cons c s ih =>
    rw [List.takeWhile_cons] at h
    split at h
    · exact ih h
    · rename_i hc
      obtain ⟨rfl, -⟩ := List.cons.inj h
      simpa [Bool.and_eq_true, or_iff_not_imp_left] using hc

theorem lexemeAt_zero (s : List UInt8) : lexemeAt 0 s = none := by
  have hsign : signAt (0 :: s) = none := rfl
  have hnum : numberLength (0 :: s) = 0 := by simp [numberLength, isDecimalByte]
  have hid : Text.isIdentifierStart (Char.ofNat (0 : UInt8).toNat) = false := by decide
  have hchar : Text.readChar 0 s = .char (Char.ofNat (0 : UInt8).toNat) 0 := by simp [Text.readChar]
  simp only [lexemeAt, hnum, hchar, hid, hsign]
  rfl

/-- A comment with a token behind it can be read without that token. -/
theorem comment_closes {bytes : List UInt8} {ps qs : List Piece} {p q : Piece} {kind : TokenKind}
    (h : pieces 0 bytes = some (ps ++ p :: q :: qs)) (hp : p.lexeme = .comment)
    (hq : q.lexeme = .token kind) : p.Closes := by
  obtain ⟨b, rest, n, hl, ht, hdrop, -, hbehind⟩ := pieces_mid h
  have hreading := Reading.of_lexemeAt hl
  rw [hp] at hreading
  cases hreading with
  | line hb hhead =>
    -- The token would start with a line end or a zero byte, and no token does.
    exfalso
    obtain ⟨b', rest', n', hl', ht', -⟩ := @pieces_mid _ [] _ _ hbehind
    rw [hq] at hl'
    have hnext : rest.drop (lineLength rest) = b' :: (rest'.take n' ++ textsOf qs) := by
      rw [hdrop, textsOf_cons, ht', List.cons_append]
    rcases lineLength_drop rest hnext with rfl | rfl
    · simp [lexemeAt, isBlankByte] at hl'
    · rw [lexemeAt_zero] at hl'; cases hl'
  | block hb hhead hblock =>
    obtain ⟨lexeme, text⟩ := p
    obtain rfl : lexeme = .comment := hp
    cases rest with
    | nil => cases hhead
    | cons c rest =>
      obtain rfl : c = 0x2A := by simpa using hhead
      have hlt := blockLength_lt hblock
      have hle := blockLength_le hblock
      rw [List.drop_succ_cons, List.drop_zero] at hblock hle
      obtain ⟨m, rfl⟩ : ∃ m, n = m + 1 := ⟨n - 1, by omega⟩
      have hlen : (rest.take m).length = m := List.length_take_of_le (by omega)
      have htext : text = 0x2F :: 0x2A :: rest.take m := by
        have ht : text = b :: (0x2A :: rest).take (m + 1) := ht
        rw [ht, hb, List.take_succ_cons]
      rw [htext]
      refine Piece.closes_block ?_
      rw [hlen, ← List.append_nil (rest.take m)]
      exact blockLength_append (s := rest.drop m) (by rwa [List.take_append_drop]) (by omega)

/-- What the last lexeme in front of a place leaves for it. -/
theorem tokensOf_last {m : Mark} {qs : List Piece} {p : Piece} {before : List Token} {g : Gap}
    (h : tokensOf (Gap.atStart m) m (qs ++ [p]) = ⟨before, g⟩) :
    (p.lexeme = .blank ∨ p.lexeme = .newline) ∨
      (p.lexeme = .comment ∧ ∃ cs c, g.comments = cs ++ [c] ∧ c.stop = m.over (textsOf (qs ++ [p]))) ∨
      ∃ kind ts t, p.lexeme = .token kind ∧ g = Gap.atStart (m.over (textsOf (qs ++ [p]))) ∧
        before = ts ++ [t] ∧ t.kind = kind := by
  rw [tokensOf_append] at h
  rw [textsOf_append, Mark.over_append]
  cases hk : p.lexeme with
  | blank => exact .inl (.inl rfl)
  | newline => exact .inl (.inr rfl)
  | comment =>
    simp only [tokensOf, hk, List.append_nil, Tokens.mk.injEq] at h
    obtain ⟨-, rfl⟩ := h
    exact .inr (.inl ⟨rfl, _, _, rfl, by simp⟩)
  | token kind =>
    simp only [tokensOf, hk, Tokens.mk.injEq] at h
    obtain ⟨rfl, rfl⟩ := h
    exact .inr (.inr ⟨kind, _, _, rfl, by simp, rfl, rfl⟩)

theorem semicolon_closes {bytes : List UInt8} {ps qs : List Piece} {p : Piece}
    (h : pieces 0 bytes = some (ps ++ p :: qs)) (hp : p.lexeme = .token (.sign .semicolon)) : p.Closes := by
  obtain ⟨b, rest, n, hl, ht, -⟩ := pieces_mid h
  obtain ⟨lexeme, text⟩ := p
  obtain rfl : lexeme = .token (.sign .semicolon) := hp
  obtain ⟨rfl, rfl⟩ := lexemeAt_semicolon hl
  obtain rfl : text = [0x3B] := ht
  exact Piece.closes_semicolon

theorem blank_closes {p : Piece} (h : p.Sound) (hp : p.lexeme = .blank ∨ p.lexeme = .newline) : p.Closes := by
  obtain ⟨lexeme, text⟩ := p
  rcases hp with rfl | rfl
  · obtain ⟨b, hb, rfl⟩ := h.blank rfl
    exact Piece.closes_blank hb
  · obtain rfl := h.newline rfl
    exact Piece.closes_newline

/-- What stands in front of a place can be read without what follows it: a blank, a semicolon, or a comment
that closes. -/
theorem closes_before {bytes : List UInt8} {m : Mark} {qs rs : List Piece} {before : List Token} {g : Gap}
    (h : pieces 0 bytes = some (qs ++ rs)) (htokens : tokensOf (Gap.atStart m) m qs = ⟨before, g⟩)
    (hcomment : ∀ ps p, qs = ps ++ [p] → p.lexeme = .comment →
      (∃ cs c, g.comments = cs ++ [c] ∧ c.stop = m.over (textsOf qs)) → p.Closes)
    (htoken : ∀ t ∈ before.getLast?, t.kind = .sign .semicolon ∨ g ≠ Gap.atStart (m.over (textsOf qs))) :
    ∀ p ∈ qs.getLast?, p.Closes := by
  intro p hp
  obtain ⟨ps, rfl⟩ := List.getLast?_eq_some_iff.1 hp
  have hpieces : pieces 0 bytes = some (ps ++ p :: rs) := by simpa using h
  rcases tokensOf_last htokens with hblank | ⟨hkind, hlast⟩ | ⟨kind, ts, t, hkind, hg, hts, rfl⟩
  · exact blank_closes (pieces_sound h p (by simp)) hblank
  · exact hcomment ps p rfl hkind hlast
  · rcases htoken t (by rw [hts]; simp) with hsemi | hne
    · exact semicolon_closes hpieces (hsemi ▸ hkind)
    · exact absurd hg hne

/-- What stands in front of the first comment of a doc block can be read without it. -/
theorem closes_before_doc {bytes : List UInt8} {m : Mark} {qs rs : List Piece} {before : List Token}
    {g : Gap} (h : pieces 0 bytes = some (qs ++ rs))
    (htokens : tokensOf (Gap.atStart m) m qs = ⟨before, g⟩)
    (hcomments : ∀ c ∈ g.comments.getLast?, c.stop.row ≠ (m.over (textsOf qs)).row)
    (htoken : ∀ t ∈ before.getLast?, t.kind = .sign .semicolon ∨ g ≠ Gap.atStart (m.over (textsOf qs))) :
    ∀ p ∈ qs.getLast?, p.Closes := by
  refine closes_before h htokens (fun _ _ _ _ hlast => ?_) htoken
  obtain ⟨cs, c, hcs, hc⟩ := hlast
  exact absurd (congrArg Mark.row hc) (hcomments c (by rw [hcs]; simp))

/-- What stands in front of a function can be read without it. -/
theorem closes_before_function {bytes : List UInt8} {m : Mark} {qs rs : List Piece} {q : Piece}
    {before : List Token} {g : Gap} {kind : TokenKind}
    (h : pieces 0 bytes = some (qs ++ q :: rs)) (hq : q.lexeme = .token kind)
    (htokens : tokensOf (Gap.atStart m) m qs = ⟨before, g⟩)
    (htoken : ∀ t ∈ before.getLast?, t.kind = .sign .semicolon ∨ g ≠ Gap.atStart (m.over (textsOf qs))) :
    ∀ p ∈ qs.getLast?, p.Closes := by
  refine closes_before h htokens (fun ps p hps hkind _ => ?_) htoken
  subst hps
  exact comment_closes (by simpa using h) hkind hq

end RouteDoc.Go
