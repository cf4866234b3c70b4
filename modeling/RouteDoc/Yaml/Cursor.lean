/-
A place in a YAML text.

A cursor holds what is left of the text and how far it has come: characters,
lines, and the column in the line. Byte order marks take no column.
-/

namespace RouteDoc.Yaml

/-- The characters that end a line. -/
def isBreak (c : Char) : Bool :=
  c == '\n' || c == '\r' || c.toNat == 0x85 || c.toNat == 0x2028 || c.toNat == 0x2029

/-- Whether a line or the text ends here. -/
def endsLine : Option Char → Bool
  | none => true
  | some c => isBreak c

/-- Whether a word ends here at a space, a line end or the end of the text. -/
def endsPlainWord : Option Char → Bool
  | none => true
  | some c => c == ' ' || isBreak c

/-- Whether a word ends here, also at a tab. -/
def endsWord : Option Char → Bool
  | none => true
  | some c => c == ' ' || c == '\t' || isBreak c

structure Cursor where
  rest : List Char
  index : Nat
  line : Nat
  column : Nat

namespace Cursor

def start (text : List Char) : Cursor := ⟨text, 0, 0, 0⟩

/-- The character `n` places ahead. -/
def peek (c : Cursor) (n : Nat) : Option Char := c.rest[n]?

def here (c : Cursor) : Option Char := c.rest.head?

def at_ (c : Cursor) (x : Char) : Bool := c.here == some x

/-- Whether a text comes next. -/
def atText (c : Cursor) (s : List Char) : Bool := s.isPrefixOf c.rest

/-- Behind one more character. -/
def next (c : Cursor) : Cursor :=
  match c.rest with
  | [] => c
  | x :: rest =>
    let breaks := isBreak x && !(x == '\r' && rest.head? == some '\n')
    if breaks then ⟨rest, c.index + 1, c.line + 1, 0⟩
    else if x.toNat == 0xFEFF then ⟨rest, c.index + 1, c.line, c.column⟩
    else ⟨rest, c.index + 1, c.line, c.column + 1⟩

/-- Behind `n` more characters. -/
def skip (c : Cursor) : Nat → Cursor
  | 0 => c
  | n + 1 => c.next.skip n

/-- Behind the characters that `p` accepts. -/
def skipWhile (c : Cursor) (p : Char → Bool) : Cursor := c.skip (c.rest.takeWhile p).length

/-- The characters that `p` accepts, and the cursor behind them. -/
def span (c : Cursor) (p : Char → Bool) : List Char × Cursor := (c.rest.takeWhile p, c.skipWhile p)

/-- A line end, as the text it stands for, and the cursor behind it. -/
def lineBreak (c : Cursor) : List Char × Cursor :=
  match c.rest with
  | '\r' :: '\n' :: _ => (['\n'], c.skip 2)
  | x :: _ =>
    if x.toNat == 0x2028 || x.toNat == 0x2029 then ([x], c.next)
    else if isBreak x then (['\n'], c.next)
    else ([], c)
  | [] => ([], c)

/-- Whether a mark between documents comes next. -/
def atSeparator (c : Cursor) : Bool :=
  (c.atText ['-', '-', '-'] || c.atText ['.', '.', '.']) && endsWord (c.peek 3)

/-- Behind spaces, a comment, and up to the end of the line. -/
def skipComment (c : Cursor) : Cursor :=
  let c := c.skipWhile (· == ' ')
  if c.at_ '#' then c.skipWhile fun x => !isBreak x else c

end Cursor

end RouteDoc.Yaml
