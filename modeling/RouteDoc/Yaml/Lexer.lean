/-
The tokens of a YAML text.

Indentation opens and closes blocks: a token further in than the block around it
opens one, and a line further out closes those it leaves. Whether a scalar is a
key shows only at the colon behind it, so the place in front of each candidate
is remembered, one for each depth of brackets, and the mark of a key is put
there afterwards. A candidate ends with its line or after a number of
characters.
-/
import RouteDoc.Yaml.Scalar

namespace RouteDoc.Yaml

/-- A place where a key may have started. A key is required where the block around it can hold
nothing else. -/
structure Candidate where
  position : Nat
  required : Bool
  index : Nat
  line : Nat
  column : Nat

/-- The state between two tokens. -/
structure Lexer where
  cursor : Cursor
  tokens : Array Token
  /-- The column of the block around the cursor; `-1` outside of all blocks. -/
  indent : Int
  outer : List Int
  /-- How many brackets are open. -/
  depth : Nat
  mayStartKey : Bool
  candidates : List (Nat × Candidate)
  done : Bool

namespace Lexer

def start (text : List Char) : Lexer :=
  ⟨.start text, #[], -1, [], 0, true, [], false⟩

variable (s : Lexer)

def inFlow : Bool := s.depth != 0

def push (t : Token) : Lexer := { s with tokens := s.tokens.push t }

/-- The longest distance of a colon from the start of its key. -/
def keyReach : Nat := 1024

/-! ## Candidates for keys -/

/-- Whether a candidate can no longer be a key. -/
def isStale (k : Candidate) : Bool :=
  k.line != s.cursor.line || decide (k.index + keyReach < s.cursor.index)

/-- Drops candidates that can no longer be keys. -/
def dropStale : Except Fault Lexer :=
  if s.candidates.any fun e => s.isStale e.2 && e.2.required then .error .invalid
  else .ok { s with candidates := s.candidates.filter fun e => !s.isStale e.2 }

def candidate? : Option Candidate :=
  (s.candidates.find? fun e => e.1 == s.depth).map (·.2)

def forget : Lexer := { s with candidates := s.candidates.filter fun e => e.1 != s.depth }

/-- Drops the candidate at this depth. -/
def dropCandidate : Except Fault Lexer :=
  match s.candidate? with
  | some k => if k.required then .error .invalid else .ok s.forget
  | none => .ok s

/-- Remembers this place as one where a key may start. -/
def saveCandidate : Except Fault Lexer :=
  if s.mayStartKey then do
    let required := !s.inFlow && s.indent == (s.cursor.column : Int)
    let s ← s.dropCandidate
    let k : Candidate :=
      ⟨s.tokens.size, required, s.cursor.index, s.cursor.line, s.cursor.column⟩
    return { s with candidates := s.candidates ++ [(s.depth, k)] }
  else .ok s

/-! ## Blocks -/

/-- Closes the blocks that are further in than a column. -/
def closeBlocks (column : Int) : List Int → Lexer → Lexer
  | [], s => s
  | i :: rest, s =>
    if column < s.indent then
      closeBlocks column rest { s.push .blockEnd with indent := i, outer := rest }
    else s

/-- Closes the blocks that the cursor has left; between brackets indentation means nothing. -/
def unwind (column : Int) : Lexer := if s.inFlow then s else closeBlocks column s.outer s

/-- Whether a token at a column opens a block. -/
def opens (column : Nat) : Bool := decide (s.indent < (column : Int))

def openBlock (column : Nat) : Lexer :=
  { s with outer := s.indent :: s.outer, indent := column }

/-- Opens a block at the cursor where one starts there. -/
def openHere (t : Token) : Lexer :=
  if !s.inFlow && s.opens s.cursor.column then (s.openBlock s.cursor.column).push t else s

/-! ## Blanks between tokens -/

/-- Behind blanks, comments and line ends. -/
def skipBlanks : Nat → Lexer → Lexer
  | 0, s => s
  | fuel + 1, s =>
    let c := s.cursor.skipComment
    match c.lineBreak with
    | ([], _) => { s with cursor := c }
    | (_, c) =>
      skipBlanks fuel { s with cursor := c, mayStartKey := s.mayStartKey || !s.inFlow }

/-- Behind a byte order mark at the start of the text. -/
def skipMark : Lexer :=
  if s.cursor.index == 0 && s.cursor.here.any (fun c => c.toNat == 0xFEFF) then
    { s with cursor := s.cursor.next }
  else s

/-! ## Names and tags -/

def isNameChar (c : Char) : Bool :=
  ('0' ≤ c && c ≤ '9') || ('A' ≤ c && c ≤ 'Z') || ('a' ≤ c && c ≤ 'z') || c == '-' || c == '_'

/-- A name that is not empty. -/
def nameAt : Read String := fun c =>
  let (name, c) := c.span isNameChar
  if name.isEmpty then .error .invalid else .ok (String.ofList name, c)

/-- Whether the name of an anchor can end here. -/
def endsAnchor (x : Option Char) : Bool :=
  endsWord x || x.any fun c => "?:,]%@".toList.contains c || c.toNat == 0x7D || c.toNat == 0x60

/-- The name behind `&` or `*`. -/
def anchorAt : Read String := fun c => do
  let (name, c) ← nameAt c.next
  if endsAnchor c.here then return (name, c) else .error .invalid

/-- The handle of a tag: an exclamation mark, or a name between two of them. -/
def handleAt : Read String := fun c =>
  if !c.at_ '!' then .error .invalid
  else if c.peek 1 == some ' ' then .ok ("!", c.next)
  else
    let (name, c) := c.next.span isNameChar
    if c.at_ '!' then .ok ("!" ++ String.ofList name ++ "!", c.next) else .error .invalid

def isUriChar (c : Char) : Bool :=
  ('0' ≤ c && c ≤ '9') || ('A' ≤ c && c ≤ 'Z') || ('a' ≤ c && c ≤ 'z') ||
    "-;/?:@&=+$,_.!~*'()[]".toList.contains c

/-- Escaped bytes, as many as follow. -/
def uriBytes : Nat → List UInt8 → Cursor → Except Fault (List UInt8 × Cursor)
  | 0, found, c => .ok (found.reverse, c)
  | fuel + 1, found, c =>
    match c.rest with
    | '%' :: a :: b :: _ =>
      if isHex a && isHex b then
        uriBytes fuel ((hexNumber [a, b]).toUInt8 :: found) (c.skip 3)
      else .error .invalid
    | '%' :: _ => .error .invalid
    | _ => .ok (found.reverse, c)

/-- The text of a tag. -/
def uriFrom : Nat → List (List Char) → Read (List Char)
  | 0, _, _ => .error .invalid
  | fuel + 1, found, c => do
    let (text, c) := c.span isUriChar
    if c.at_ '%' then
      let (bytes, c) ← uriBytes c.rest.length [] c
      match Text.decode bytes with
      | .ok more => uriFrom fuel (more :: text :: found) c
      | .error _ => .error .invalid
    else return ((text :: found).reverse.flatten, c)

/-- The text of a tag, which is not empty. -/
def uriAt : Read String := fun c =>
  if c.here.any fun x => isUriChar x || x == '%' then do
    let (text, c) ← uriFrom (c.rest.length + 1) [] c
    return (String.ofList text, c)
  else .error .invalid

/-- A tag. -/
def tagAt : Read Token := fun c => do
  let (found, c) ←
    if c.peek 1 == some '<' then do
      let (suffix, c) ← uriAt (c.skip 2)
      if c.at_ '>' then pure (Token.tag none suffix, c.next) else .error .invalid
    else if endsWord (c.peek 1) then pure (Token.tag none "!", c.next)
    else
      let word := c.next.rest.takeWhile fun x => !endsPlainWord (some x)
      if word.contains '!' then do
        let (handle, c) ← handleAt c
        let (suffix, c) ← uriAt c
        pure (Token.tag (some handle) suffix, c)
      else do
        let (suffix, c) ← uriAt c.next
        pure (Token.tag (some "!") suffix, c)
  if endsPlainWord c.here then return (found, c) else .error .invalid

/-! ## Directives -/

/-- A number of a version. -/
def versionNumber : Read Nat := fun c =>
  let (digits, c) := c.span Char.isDigit
  if digits.isEmpty then .error .invalid
  else if 4300 < digits.length then .error (.value (.tooManyDigits digits.length))
  else .ok (digits.foldl (fun n d => 10 * n + (d.toNat - 0x30)) 0, c)

/-- What follows the name of a directive. -/
def directiveValue (name : String) : Read Directive := fun c =>
  if name == "YAML" then do
    let (major, c) ← versionNumber (c.skipWhile (· == ' '))
    if !c.at_ '.' then .error .invalid
    else do
      let (_, c) ← versionNumber c.next
      if endsPlainWord c.here then return (.version major, c) else .error .invalid
  else if name == "TAG" then do
    let (handle, c) ← handleAt (c.skipWhile (· == ' '))
    if !c.at_ ' ' then .error .invalid
    else do
      let (lead, c) ← uriAt (c.skipWhile (· == ' '))
      if endsPlainWord c.here then return (.tag handle lead, c) else .error .invalid
  else .ok (.other, c.skipWhile fun x => !isBreak x)

/-- A directive. -/
def directiveAt : Read Directive := fun c => do
  let (name, c) ← nameAt c.next
  if !endsPlainWord c.here then .error .invalid
  else do
    let (d, c) ← directiveValue name c
    let c ← ignoredLine c
    return (d, c)

/-! ## Tokens -/

/-- A token that stands between documents. -/
def betweenDocuments (t : Token) (c : Cursor) : Except Fault Lexer := do
  let s ← (s.unwind (-1)).dropCandidate
  return { s.push t with mayStartKey := false, cursor := c }

def streamEnd : Except Fault Lexer := do
  let s ← (s.unwind (-1)).dropCandidate
  return { s.push .streamEnd with mayStartKey := false, candidates := [], done := true }

def openBracket (t : Token) : Except Fault Lexer := do
  let s ← s.saveCandidate
  return { s.push t with depth := s.depth + 1, mayStartKey := true, cursor := s.cursor.next }

def closeBracket (t : Token) : Except Fault Lexer := do
  let s ← s.dropCandidate
  return { s.push t with depth := s.depth - 1, mayStartKey := false, cursor := s.cursor.next }

def flowEntry : Except Fault Lexer := do
  let s ← ({ s with mayStartKey := true } : Lexer).dropCandidate
  return { s.push .flowEntry with cursor := s.cursor.next }

/-- An entry of a sequence. -/
def blockEntry : Except Fault Lexer :=
  if !s.inFlow && !s.mayStartKey then .error .invalid
  else do
    let s := s.openHere .blockSequenceStart
    let s ← ({ s with mayStartKey := true } : Lexer).dropCandidate
    return { s.push .blockEntry with cursor := s.cursor.next }

/-- A key that is marked as one. -/
def markedKey : Except Fault Lexer :=
  if !s.inFlow && !s.mayStartKey then .error .invalid
  else do
    let s := s.openHere .blockMappingStart
    let s ← ({ s with mayStartKey := !s.inFlow } : Lexer).dropCandidate
    return { s.push .key with cursor := s.cursor.next }

/-- Tokens put in at a place among those there are. -/
def insertAt (position : Nat) (ts : Array Token) : Lexer :=
  { s with
    tokens := s.tokens.extract 0 position ++ ts ++ s.tokens.extract position s.tokens.size }

/-- The value of a key: the candidate in front of it, where there is one, is that key. -/
def mappingValue : Except Fault Lexer :=
  match s.candidate? with
  | some k =>
    let s := s.forget
    let opensBlock := !s.inFlow && s.opens k.column
    let s := s.insertAt k.position (if opensBlock then #[.blockMappingStart, .key] else #[.key])
    let s := if opensBlock then s.openBlock k.column else s
    .ok { s.push .value with mayStartKey := false, cursor := s.cursor.next }
  | none =>
    if !s.inFlow && !s.mayStartKey then .error .invalid
    else do
      let s := s.openHere .blockMappingStart
      let s ← ({ s with mayStartKey := !s.inFlow } : Lexer).dropCandidate
      return { s.push .value with cursor := s.cursor.next }

/-- A token that can be the start of a key. -/
def keyToken (read : Read Token) : Except Fault Lexer := do
  let s ← s.saveCandidate
  let (t, c) ← read s.cursor
  return { s.push t with mayStartKey := false, cursor := c }

def quoted (double : Bool) : Except Fault Lexer :=
  s.keyToken fun c => do
    let (text, c) ← quotedScalar double c
    return (.scalar (String.ofList text) false, c)

def plain : Except Fault Lexer := do
  let s ← s.saveCandidate
  let ((text, ended), c) := plainScalar s.inFlow s.indent s.cursor
  return { s.push (.scalar (String.ofList text) true) with mayStartKey := ended, cursor := c }

def block (fold : Bool) : Except Fault Lexer := do
  let s ← ({ s with mayStartKey := true } : Lexer).dropCandidate
  let (text, c) ← blockScalar fold s.indent s.cursor
  return { s.push (.scalar (String.ofList text) false) with cursor := c }

/-- Characters that cannot start a plain scalar, or only in front of a word. -/
def isIndicator (c : Char) : Bool :=
  "-?:,[]#&*!|>'\"%@".toList.contains c || c.toNat == 0x7B || c.toNat == 0x7D || c.toNat == 0x60

/-- Whether a plain scalar starts with `x` in front of `y`. -/
def startsPlain (x : Char) (y : Option Char) : Bool :=
  !(isIndicator x || endsWord (some x)) ||
    (!endsWord y && (x == '-' || (!s.inFlow && (x == '?' || x == ':'))))

/-- The token that starts with `x`. -/
def tokenAt (x : Char) : Except Fault Lexer :=
  let c := s.cursor
  let y := c.peek 1
  if x == '%' && c.column == 0 then do
    let s ← (s.unwind (-1)).dropCandidate
    let (d, c) ← directiveAt c
    return { s.push (.directive d) with mayStartKey := false, cursor := c }
  else if c.column == 0 && c.atText ['-', '-', '-'] && endsWord (c.peek 3) then
    s.betweenDocuments .documentStart (c.skip 3)
  else if c.column == 0 && c.atText ['.', '.', '.'] && endsWord (c.peek 3) then
    s.betweenDocuments .documentEnd (c.skip 3)
  else if x == '[' then s.openBracket .flowSequenceStart
  else if x.toNat == 0x7B then s.openBracket .flowMappingStart
  else if x == ']' then s.closeBracket .flowSequenceEnd
  else if x.toNat == 0x7D then s.closeBracket .flowMappingEnd
  else if x == ',' then s.flowEntry
  else if x == '-' && endsWord y then s.blockEntry
  else if x == '?' && (s.inFlow || endsWord y) then s.markedKey
  else if x == ':' && (s.inFlow || endsWord y) then s.mappingValue
  else if x == '*' then
    s.keyToken fun c => (anchorAt c).map fun (name, c) => (.reference name, c)
  else if x == '&' then
    s.keyToken fun c => (anchorAt c).map fun (name, c) => (.anchor name, c)
  else if x == '!' then s.keyToken tagAt
  else if x == '|' && !s.inFlow then s.block false
  else if x == '>' && !s.inFlow then s.block true
  else if x == '\'' then s.quoted false
  else if x == '"' then s.quoted true
  else if s.startsPlain x y then s.plain
  else .error .invalid

/-- One step: behind blanks, out of the blocks that were left, and over the next token. -/
def step : Except Fault Lexer := do
  let s := skipBlanks (s.cursor.rest.length + 1) s.skipMark
  let s ← s.dropStale
  let s := s.unwind s.cursor.column
  match s.cursor.here with
  | none => s.streamEnd
  | some x => s.tokenAt x

/-- All steps, with fuel for the characters. -/
def run : Nat → Lexer → Except Fault Lexer
  | 0, _ => .error .invalid
  | fuel + 1, s => do
    let s ← s.step
    if s.done then return s else run fuel s

end Lexer

/-- Whether a character may stand in a YAML text. -/
def isAllowed (c : Char) : Bool :=
  let n := c.toNat
  n == 0x09 || n == 0x0A || n == 0x0D || (decide (0x20 ≤ n) && decide (n ≤ 0x7E)) || n == 0x85 ||
    (decide (0xA0 ≤ n) && n != 0xFFFE && n != 0xFFFF)

/-- The tokens of a text. -/
def tokens (text : List Char) : Except Fault (List Token) :=
  if text.all isAllowed then do
    let s ← Lexer.run (text.length + 2) (.start text)
    return s.tokens.toList
  else .error .invalid

end RouteDoc.Yaml
