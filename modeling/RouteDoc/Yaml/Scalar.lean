/-
Scalars of a YAML text: how the three ways of writing them are read.

A plain scalar goes on over several lines as long as they are indented; a quoted
one ends at its quote, and a block one where the indentation ends. Where lines
are folded a single line end is a space, and of several the first is dropped.
-/
import RouteDoc.Text.Utf8
import RouteDoc.Yaml.Cursor
import RouteDoc.Yaml.Token

namespace RouteDoc.Yaml

/-- Reads something at a cursor. -/
abbrev Read (α : Type) := Cursor → Except Fault (α × Cursor)

/-- A line end between two parts of a folded scalar, with the empty lines behind it. -/
def folded (lineEnd : List Char) (more : List (List Char)) : List Char :=
  (if lineEnd != ['\n'] then lineEnd else if more.isEmpty then [' '] else []) ++ more.flatten

def isHex (c : Char) : Bool :=
  ('0' ≤ c && c ≤ '9') || ('a' ≤ c && c ≤ 'f') || ('A' ≤ c && c ≤ 'F')

def hexValue (c : Char) : Nat :=
  if c ≤ '9' then c.toNat - 0x30 else if c ≤ 'F' then c.toNat - 0x37 else c.toNat - 0x57

/-- The number that hexadecimal digits are. -/
def hexNumber (digits : List Char) : Nat := digits.foldl (fun n c => 16 * n + hexValue c) 0

/-! ## Quoted scalars -/

/-- Escapes of one letter. -/
def escapes : List (Char × Nat) :=
  [('0', 0), ('a', 7), ('b', 8), ('t', 9), ('\t', 9), ('n', 10), ('v', 11), ('f', 12), ('r', 13),
    ('e', 27), (' ', 32), ('"', 34), ('\\', 92), ('/', 47), ('N', 0x85), ('_', 0xA0),
    ('L', 0x2028), ('P', 0x2029)]

/-- Letters of escapes by number, and how many digits follow. -/
def escapeWidths : List (Char × Nat) := [('x', 2), ('u', 4), ('U', 8)]

/-- The character of a number. Values are texts of characters, and the number of a surrogate has none: its escape
is read as U+FFFD, so a text that would hold a surrogate is another one here. -/
def character (n : Nat) : Except Fault Char :=
  if 0x7FFFFFFF < n then .error (.value (.noCharacter true))
  else if 0x10FFFF < n then .error (.value (.noCharacter false))
  else if n.isValidChar then .ok (Char.ofNat n)
  else .ok (Char.ofNat 0xFFFD)

/-- Empty lines inside a quoted scalar, with the blanks around them. -/
def quotedBreaks : Nat → List (List Char) → Read (List (List Char))
  | 0, _, _ => .error .invalid
  | fuel + 1, found, c =>
    if c.atSeparator then .error .invalid
    else
      let c := c.skipWhile fun x => x == ' ' || x == '\t'
      match c.lineBreak with
      | ([], _) => .ok (found.reverse, c)
      | (text, c) => quotedBreaks fuel (text :: found) c

/-- What follows a backslash. -/
def escapeAt (c : Cursor) : Except Fault (List Char × Cursor) :=
  match c.here with
  | none => .error .invalid
  | some x =>
    match escapes.find? fun e => e.1 == x with
    | some e => .ok ([Char.ofNat e.2], c.next)
    | none =>
      match escapeWidths.find? fun e => e.1 == x with
      | some e =>
        let digits := c.next.rest.take e.2
        if digits.length == e.2 && digits.all isHex then do
          let found ← character (hexNumber digits)
          return ([found], c.next.skip e.2)
        else .error .invalid
      | none =>
        if isBreak x then do
          let (more, c) ← quotedBreaks (c.rest.length + 1) [] c.lineBreak.2
          return (more.flatten, c)
        else .error .invalid

def stopsQuoted (c : Char) : Bool :=
  c == '\'' || c == '"' || c == '\\' || c == ' ' || c == '\t' || isBreak c

/-- Text of a quoted scalar up to a blank or the quote. -/
def quotedText (double : Bool) : Nat → List (List Char) → Read (List Char)
  | 0, _, _ => .error .invalid
  | fuel + 1, found, c =>
    let (plain, c) := c.span fun x => !stopsQuoted x
    let found := plain :: found
    match c.here with
    | some '\'' =>
      if double then quotedText double fuel (['\''] :: found) c.next
      else if c.peek 1 == some '\'' then quotedText double fuel (['\''] :: found) (c.skip 2)
      else .ok (found.reverse.flatten, c)
    | some '"' =>
      if double then .ok (found.reverse.flatten, c)
      else quotedText double fuel (['"'] :: found) c.next
    | some '\\' =>
      if double then do
        let (text, c) ← escapeAt c.next
        quotedText double fuel (text :: found) c
      else quotedText double fuel (['\\'] :: found) c.next
    | _ => .ok (found.reverse.flatten, c)

/-- Blanks of a quoted scalar: kept inside a line, folded at its end. -/
def quotedBlanks (c : Cursor) : Except Fault (List Char × Cursor) :=
  let (blanks, c) := c.span fun x => x == ' ' || x == '\t'
  match c.here with
  | none => .error .invalid
  | some x =>
    if isBreak x then do
      let (lineEnd, c) := c.lineBreak
      let (more, c) ← quotedBreaks (c.rest.length + 1) [] c
      return (folded lineEnd more, c)
    else .ok (blanks, c)

/-- A quoted scalar behind its opening quote. -/
def quotedFrom (double : Bool) : Nat → List (List Char) → Read (List Char)
  | 0, _, _ => .error .invalid
  | fuel + 1, found, c => do
    let (text, c) ← quotedText double (c.rest.length + 1) [] c
    let found := text :: found
    if c.at_ (if double then '"' else '\'') then return (found.reverse.flatten, c.next)
    else do
      let (blanks, c) ← quotedBlanks c
      quotedFrom double fuel (blanks :: found) c

/-- A quoted scalar. -/
def quotedScalar (double : Bool) : Read (List Char) := fun c =>
  quotedFrom double (c.rest.length + 1) [] c.next

/-! ## Block scalars -/

/-- What happens to line ends at the end of a block scalar. -/
inductive Chomping where
  | clip
  | strip
  | keep
  deriving DecidableEq

def chomping? : Option Char → Option Chomping
  | some '+' => some .keep
  | some '-' => some .strip
  | _ => none

def increment? : Option Char → Option Nat
  | some x => if '0' ≤ x && x ≤ '9' then some (x.toNat - 0x30) else none
  | none => none

/-- The two indicators of a block scalar, in either order. -/
def blockIndicators (c : Cursor) : Except Fault ((Chomping × Option Nat) × Cursor) :=
  let (found, c) : (Chomping × Option Nat) × Cursor :=
    match chomping? c.here with
    | some k =>
      match increment? c.next.here with
      | some n => ((k, some n), c.skip 2)
      | none => ((k, none), c.next)
    | none =>
      match increment? c.here with
      | some n =>
        match chomping? c.next.here with
        | some k => ((k, some n), c.skip 2)
        | none => ((.clip, some n), c.next)
      | none => ((.clip, none), c)
  if found.2 == some 0 then .error .invalid
  else if endsPlainWord c.here then .ok (found, c)
  else .error .invalid

/-- The rest of the line behind the indicators, which can only hold a comment. -/
def ignoredLine (c : Cursor) : Except Fault Cursor :=
  let c := c.skipComment
  if endsLine c.here then .ok c.lineBreak.2 else .error .invalid

/-- Leading empty lines, and the widest indentation among them and the first other line. -/
def blockIndentation : Nat → List (List Char) → Nat → Cursor → (List (List Char) × Nat) × Cursor
  | 0, found, widest, c => ((found.reverse, widest), c)
  | fuel + 1, found, widest, c =>
    match c.here with
    | some x =>
      if x == ' ' then blockIndentation fuel found (max widest c.next.column) c.next
      else if isBreak x then
        let (text, c) := c.lineBreak
        blockIndentation fuel (text :: found) widest c
      else ((found.reverse, widest), c)
    | none => ((found.reverse, widest), c)

/-- Behind spaces, as far as column `indent`. -/
def toIndent (indent : Nat) (c : Cursor) : Cursor :=
  c.skip ((c.rest.take (indent - c.column)).takeWhile (· == ' ')).length

/-- Empty lines, and the indentation of the line behind them. -/
def blockBreaks (indent : Nat) : Nat → List (List Char) → Cursor → List (List Char) × Cursor
  | 0, found, c => (found.reverse, c)
  | fuel + 1, found, c =>
    let c := toIndent indent c
    match c.lineBreak with
    | ([], _) => (found.reverse, c)
    | (text, c) => blockBreaks indent fuel (text :: found) c

def startsBlank : Option Char → Bool
  | some x => x == ' ' || x == '\t'
  | none => false

/-- The lines of a block scalar: its text without the end, the last line end, and the empty lines
behind it. -/
def blockLines (fold : Bool) (indent : Nat) :
    Nat → List (List Char) → List Char → List (List Char) → Cursor →
      (List Char × List Char × List (List Char)) × Cursor
  | 0, found, lineEnd, breaks, c => ((found.reverse.flatten, lineEnd, breaks), c)
  | fuel + 1, found, lineEnd, breaks, c =>
    if c.column == indent && c.here.isSome then
      let startsFull := !startsBlank c.here
      let (text, c) := c.span fun x => !isBreak x
      let found := text :: breaks.flatten :: found
      let (lineEnd, c) := c.lineBreak
      let (breaks, c) := blockBreaks indent (c.rest.length + 1) [] c
      if c.column == indent && c.here.isSome then
        let between :=
          if fold && lineEnd == ['\n'] && startsFull && !startsBlank c.here then
            if breaks.isEmpty then [' '] else []
          else lineEnd
        blockLines fold indent fuel (between :: found) lineEnd breaks c
      else ((found.reverse.flatten, lineEnd, breaks), c)
    else ((found.reverse.flatten, lineEnd, breaks), c)

/-- A block scalar; `outer` is the indentation around it. -/
def blockScalar (fold : Bool) (outer : Int) : Read (List Char) := fun c => do
  let ((chomping, increment), c) ← blockIndicators c.next
  let c ← ignoredLine c
  let least := (max (outer + 1) 1).toNat
  let fuel := c.rest.length + 1
  let (breaks, indent, c) : List (List Char) × Nat × Cursor :=
    match increment with
    | none =>
      let ((breaks, widest), c) := blockIndentation fuel [] 0 c
      (breaks, max least widest, c)
    | some n =>
      let indent := least + n - 1
      let (breaks, c) := blockBreaks indent fuel [] c
      (breaks, indent, c)
  let ((text, lineEnd, breaks), c) := blockLines fold indent fuel [] [] breaks c
  let tail := match chomping with
    | .strip => []
    | .clip => lineEnd
    | .keep => lineEnd ++ breaks.flatten
  return (text ++ tail, c)

/-! ## Plain scalars -/

def isFlowSign (c : Char) : Bool :=
  c == ',' || c == '[' || c == ']' || c.toNat == 0x7B || c.toNat == 0x7D

/-- Whether a plain scalar stops at the start of a text. -/
def stopsPlain (inFlow : Bool) : List Char → Bool
  | [] => true
  | x :: rest =>
    endsWord (some x) ||
    (x == ':' && (endsWord rest.head? || (inFlow && rest.head?.any isFlowSign))) ||
    (inFlow && (isFlowSign x || x == '?'))

/-- The length of a plain scalar up to a blank or an indicator. -/
def plainLength (inFlow : Bool) : List Char → Nat
  | [] => 0
  | x :: rest => if stopsPlain inFlow (x :: rest) then 0 else plainLength inFlow rest + 1

/-- Empty lines inside a plain scalar; none where a mark between documents comes next. -/
def plainBreaks : Nat → List (List Char) → Cursor → Option (List (List Char)) × Cursor
  | 0, found, c => (some found.reverse, c)
  | fuel + 1, found, c =>
    match c.here with
    | some x =>
      if x == ' ' then plainBreaks fuel found c.next
      else if isBreak x then
        let (text, c) := c.lineBreak
        if c.atSeparator then (none, c) else plainBreaks fuel (text :: found) c
      else (some found.reverse, c)
    | none => (some found.reverse, c)

/-- Blanks behind a part of a plain scalar, whether a line ended in them, and the cursor behind
them. -/
def plainBlanks (c : Cursor) : List Char × Bool × Cursor :=
  let (blanks, c) := c.span (· == ' ')
  match c.lineBreak with
  | ([], _) => (blanks, false, c)
  | (lineEnd, c) =>
    if c.atSeparator then ([], true, c)
    else
      match plainBreaks (c.rest.length + 1) [] c with
      | (some more, c) => (folded lineEnd more, true, c)
      | (none, c) => ([], true, c)

/-- A plain scalar: its text, and whether a line ended behind it. -/
def plainFrom (inFlow : Bool) (indent : Int) :
    Nat → List (List Char) → List Char → Bool → Cursor → (List Char × Bool) × Cursor
  | 0, found, _, ended, c => ((found.reverse.flatten, ended), c)
  | fuel + 1, found, blanks, ended, c =>
    let n := plainLength inFlow c.rest
    if c.at_ '#' || n == 0 then ((found.reverse.flatten, ended), c)
    else
      let found := c.rest.take n :: blanks :: found
      let (blanks, ended, c) := plainBlanks (c.skip n)
      if blanks.isEmpty || c.at_ '#' || (!inFlow && decide ((c.column : Int) < indent)) then
        ((found.reverse.flatten, ended), c)
      else plainFrom inFlow indent fuel found blanks ended c

/-- A plain scalar; `outer` is the indentation around it. -/
def plainScalar (inFlow : Bool) (outer : Int) (c : Cursor) : (List Char × Bool) × Cursor :=
  plainFrom inFlow (outer + 1) (c.rest.length + 1) [] [] false c

end RouteDoc.Yaml
