/-
From bytes to tokens.

`lexemeAt` finds the longest lexeme that a text starts with, as its kind and its
length; `scan` walks over the text, lexeme by lexeme, and collects the tokens
with the gaps between them. A byte order mark in front is passed over. Bytes
that are no character can stand in comments and literals; a zero byte can stand
nowhere.
-/
import RouteDoc.Go.Token
import RouteDoc.Text.Identifier
import RouteDoc.Text.Utf8

namespace RouteDoc.Go

/-- What a text starts with. -/
inductive Lexeme where
  | blank
  | newline
  | comment
  | token (kind : TokenKind)
  deriving DecidableEq, Repr

def isBlankByte (b : UInt8) : Bool :=
  b == 0x20 || b == 0x09 || b == 0x0B || b == 0x0C || b == 0x0D

def isDecimalByte (b : UInt8) : Bool := decide (0x30 ≤ b) && decide (b ≤ 0x39)

def isOctalByte (b : UInt8) : Bool := decide (0x30 ≤ b) && decide (b ≤ 0x37)

def isBinaryByte (b : UInt8) : Bool := b == 0x30 || b == 0x31

def isHexByte (b : UInt8) : Bool :=
  isDecimalByte b || (decide (0x41 ≤ b) && decide (b ≤ 0x46)) ||
    (decide (0x61 ≤ b) && decide (b ≤ 0x66))

/-! ## Comments and literals -/

/-- The length of the rest of a line comment. -/
def lineLength (s : List UInt8) : Nat := (s.takeWhile fun b => b != 0x0A && b != 0).length

/-- The length of a text up to and including the end of a block comment. -/
def blockLength : Nat → List UInt8 → Option Nat
  | _, [] => none
  | n, 0x2A :: 0x2F :: _ => some (n + 2)
  | n, b :: rest => if b == 0 then none else blockLength (n + 1) rest

/-- The length of the rest of a raw string. -/
def rawLength : Nat → List UInt8 → Option Nat
  | _, [] => none
  | n, b :: rest =>
    if b == 0x60 then some (n + 1) else if b == 0 then none else rawLength (n + 1) rest

def startsWithHex (count : Nat) (s : List UInt8) : Bool :=
  (s.take count).length == count && (s.take count).all isHexByte

/-- Whether what follows a backslash in a string is an escape. -/
def stringEscapeOk : List UInt8 → Bool
  | [] => false
  | b :: rest =>
    if b == 0x78 then startsWithHex 2 rest
    else if b == 0x75 then startsWithHex 4 rest
    else if b == 0x55 then startsWithHex 8 rest
    else b != 0

/-- The length of the rest of an interpreted string; `escaped` right behind a backslash. -/
def stringLength (escaped : Bool) : Nat → List UInt8 → Option Nat
  | _, [] => none
  | n, b :: rest =>
    if escaped then stringLength false (n + 1) rest
    else if b == 0x22 then some (n + 1)
    else if b == 0x0A || b == 0 then none
    else if b == 0x5C then
      if stringEscapeOk rest then stringLength true (n + 1) rest else none
    else stringLength false (n + 1) rest

/-- The length of an escape in a rune literal, behind the backslash. -/
def runeEscapeLength : List UInt8 → Option Nat
  | [] => none
  | b :: rest =>
    if b == 0x78 then (if startsWithHex 2 rest then some 3 else none)
    else if b == 0x75 then (if startsWithHex 4 rest then some 5 else none)
    else if b == 0x55 then (if startsWithHex 8 rest then some 9 else none)
    else if isOctalByte b then
      (if (rest.take 2).length == 2 && (rest.take 2).all isOctalByte then some 3 else none)
    else if [0x61, 0x62, 0x66, 0x6E, 0x72, 0x74, 0x76, 0x5C, 0x27, 0x22].contains b then some 1
    else none

/-- The length of the character in a rune literal. -/
def runeCharLength : List UInt8 → Option Nat
  | [] => none
  | b :: rest =>
    if b == 0x5C then (runeEscapeLength rest).map (· + 1)
    else if b == 0x27 || b == 0 then none
    else match Text.readChar b rest with
      | .char _ more => some (more + 1)
      | .fault _ _ => some 1

/-- The length of the rest of a rune literal. -/
def runeLength (s : List UInt8) : Option Nat := do
  let n ← runeCharLength s
  match s.drop n with
  | b :: _ => if b == 0x27 then some (n + 1) else none
  | [] => none

/-! ## Numbers -/

/-- The length of a run of digits, with single underscores between them. -/
def digitsLength (isDigit : UInt8 → Bool) : List UInt8 → Nat
  | [] => 0
  | [b] => if isDigit b then 1 else 0
  | b :: 0x5F :: c :: rest =>
    if isDigit b then (if isDigit c then digitsLength isDigit (c :: rest) + 2 else 1) else 0
  | b :: c :: rest => if isDigit b then digitsLength isDigit (c :: rest) + 1 else 0

/-- Digits that may have an underscore in front. -/
def looseDigitsLength (isDigit : UInt8 → Bool) (s : List UInt8) : Nat :=
  match s with
  | 0x5F :: rest =>
    let n := digitsLength isDigit rest
    if n == 0 then 0 else n + 1
  | _ => digitsLength isDigit s

/-- The length of an exponent marked by one of two letters. -/
def exponentLength (small capital : UInt8) (s : List UInt8) : Nat :=
  match s with
  | b :: rest =>
    if b == small || b == capital then
      let signed := match rest with
        | c :: _ => c == 0x2B || c == 0x2D
        | [] => false
      let n := digitsLength isDecimalByte (if signed then rest.drop 1 else rest)
      if n == 0 then 0 else n + (if signed then 2 else 1)
    else 0
  | [] => 0

/-- The length of a number in a base that a letter behind the zero marks. -/
def markedLength (isDigit : UInt8 → Bool) (s : List UInt8) : Nat :=
  let n := looseDigitsLength isDigit (s.drop 2)
  if n == 0 then 1 else n + 2

/-- Whether a text starts with the mark of a hexadecimal number. -/
def isHexMarked : List UInt8 → Bool
  | 0x30 :: b :: _ => b == 0x78 || b == 0x58
  | _ => false

/-- The length of a hexadecimal floating point number; zero where there is none. -/
def hexFloatLength (s : List UInt8) : Nat :=
  if !isHexMarked s then 0 else
  let digits := looseDigitsLength isHexByte (s.drop 2)
  let mantissa := match s.drop (2 + digits) with
    | 0x2E :: rest =>
      let n := digitsLength isHexByte rest
      if digits == 0 && n == 0 then 0 else digits + 1 + n
    | _ => digits
  if mantissa == 0 then 0
  else
    let e := exponentLength 0x70 0x50 (s.drop (2 + mantissa))
    if e == 0 then 0 else 2 + mantissa + e

/-- The length of a decimal floating point number; zero where there is none. -/
def decimalFloatLength (s : List UInt8) : Nat :=
  let whole := digitsLength isDecimalByte s
  match s.drop whole with
  | 0x2E :: rest =>
    let n := digitsLength isDecimalByte rest
    if whole == 0 && n == 0 then 0
    else whole + 1 + n + exponentLength 0x65 0x45 (rest.drop n)
  | rest =>
    let e := exponentLength 0x65 0x45 rest
    if whole == 0 || e == 0 then 0 else whole + e

/-- The length of an integer; zero where there is none. -/
def integerLength (s : List UInt8) : Nat :=
  match s with
  | 0x30 :: b :: _ =>
    if b == 0x78 || b == 0x58 then markedLength isHexByte s
    else if b == 0x62 || b == 0x42 then markedLength isBinaryByte s
    else if b == 0x6F || b == 0x4F then markedLength isOctalByte s
    else looseDigitsLength isOctalByte (s.drop 1) + 1
  | 0x30 :: _ => 1
  | _ => digitsLength isDecimalByte s

/-- `n` with the mark of an imaginary number behind it, where there is one. -/
def imaginaryLength (s : List UInt8) (n : Nat) : Nat :=
  match s.drop n with
  | 0x69 :: _ => if n == 0 then 0 else n + 1
  | _ => n

/-- The length of the longest number that a text starts with; zero where there is none. -/
def numberLength (s : List UInt8) : Nat :=
  if !(s.head?.any fun b => isDecimalByte b || b == 0x2E) then 0 else
  [digitsLength isDecimalByte s, integerLength s, decimalFloatLength s, hexFloatLength s].foldl
    (fun best n => max best (let m := imaginaryLength s n; if m == n then 0 else m))
    (max (integerLength s) (max (decimalFloatLength s) (hexFloatLength s)))

/-! ## Names, keywords and signs -/

/-- The length of the rest of an identifier, behind `skip` bytes of a character that is in it. -/
def nameLength : Nat → Nat → List UInt8 → Nat
  | _, n, [] => n
  | skip + 1, n, _ :: rest => nameLength skip (n + 1) rest
  | 0, n, b :: rest =>
    match Text.readChar b rest with
    | .char c more => if Text.isIdentifierContinue c then nameLength more (n + 1) rest else n
    | .fault _ _ => n

/-- The bytes of a text of ASCII characters. -/
def asciiBytes (s : String) : List UInt8 := s.toList.map fun c => c.toNat.toUInt8

def keywordTable : List (List UInt8 × Keyword) := Keyword.table.map fun e => (asciiBytes e.1, e.2)

def signTable : List (List UInt8 × Sign) := Sign.table.map fun e => (asciiBytes e.1, e.2)

/-- The kind of a token that looks like a name. -/
def wordKind (text : List UInt8) : TokenKind :=
  match keywordTable.find? fun e => e.1 == text with
  | some e => .word e.2
  | none => .name

/-- The longest sign that a text starts with. -/
def signAt (s : List UInt8) : Option (Sign × Nat) :=
  (signTable.find? fun e => e.1.isPrefixOf s).map fun e => (e.2, e.1.length)

/-- The lexeme that starts with `b`, and how many bytes after `b` belong to it. -/
def lexemeAt (b : UInt8) (rest : List UInt8) : Option (Lexeme × Nat) :=
  if isBlankByte b then some (.blank, 0)
  else if b == 0x0A then some (.newline, 0)
  else if b == 0x2F && rest.head? == some 0x2F then some (.comment, lineLength rest)
  else if b == 0x2F && rest.head? == some 0x2A then
    (blockLength 1 (rest.drop 1)).map fun n => (.comment, n)
  else if b == 0x22 then (stringLength false 0 rest).map fun n => (.token .text, n)
  else if b == 0x60 then (rawLength 0 rest).map fun n => (.token .text, n)
  else if b == 0x27 then (runeLength rest).map fun n => (.token .rune, n)
  else
    let n := numberLength (b :: rest)
    if n != 0 then some (.token .number, n - 1)
    else match Text.readChar b rest with
      | .fault _ _ => none
      | .char c more =>
        if Text.isIdentifierStart c then
          let n := nameLength more 0 rest
          some (.token (wordKind (b :: rest.take n)), n)
        else (signAt (b :: rest)).map fun e => (.token (.sign e.1), e.2 - 1)

/-! ## The walk over the text -/

/-- The gap in front of a text. -/
def Gap.atStart (m : Mark) : Gap := ⟨m, false, []⟩

/-- A text as tokens, with what lies behind the last of them. -/
structure Tokens where
  tokens : List Token
  rest : Gap
  deriving Repr

/-- Walks on at `here`, where the next `skip` bytes belong to the last lexeme. The tokens found and
the comments of the gap stand in reverse order. -/
def scan (found : List Token) (gap : Gap) (here : Mark) : Nat → List UInt8 → Option Tokens
  | _, [] => some ⟨found.reverse, { gap with comments := gap.comments.reverse }⟩
  | skip + 1, b :: rest => scan found gap (here.step b) skip rest
  | 0, b :: rest =>
    match lexemeAt b rest with
    | none => none
    | some (.blank, n) => scan found gap (here.step b) n rest
    | some (.newline, n) => scan found { gap with newline := true } (here.step b) n rest
    | some (.comment, n) =>
      let text := b :: rest.take n
      let comment : Comment := ⟨here, here.over text, text⟩
      scan found { gap with comments := comment :: gap.comments } (here.step b) n rest
    | some (.token kind, n) =>
      let text := b :: rest.take n
      let stop := here.over text
      let token : Token :=
        ⟨kind, text, here, stop, { gap with comments := gap.comments.reverse }⟩
      scan (token :: found) (Gap.atStart stop) (here.step b) n rest

/-- The bytes of a byte order mark. -/
def byteOrderMark : List UInt8 := [0xEF, 0xBB, 0xBF]

/-- The tokens of a source text, where every byte of it belongs to a lexeme. -/
def tokenize (source : List UInt8) : Option Tokens :=
  if byteOrderMark.isPrefixOf source then
    let start : Mark := ⟨3, 0⟩
    scan [] (Gap.atStart start) start 0 (source.drop 3)
  else scan [] (Gap.atStart .origin) .origin 0 source

end RouteDoc.Go
