/-
Replacement templates.

A template says what is put in the place of a match: texts, and groups of the
match by their numbers. A backslash stands in front of what is not text: the
number of a group in one or two digits, the letter g with the number in angle
brackets behind it, a character by its code in octal digits, or a letter for a
character that cannot be shown. Three octal digits are a code, and so are digits
behind a zero. In front of anything else that is no letter a backslash is text.
-/
import RouteDoc.Integer
import RouteDoc.Text.Identifier

namespace RouteDoc.Template

inductive Part where
  | text (s : List Char)
  | group (index : Nat)
  deriving DecidableEq, Repr

/-- What is wrong with a template. -/
inductive Reason where
  /-- Nothing behind a backslash. -/
  | unfinished
  | escape (c : Char)
  /-- A code that needs more than eight bits. -/
  | code (digits : List Char)
  | noBracket
  | noName
  /-- A name without an end. -/
  | openName
  /-- A name that is neither a word nor a number. -/
  | misnamed (name : List Char)
  /-- A word, though no group has a name. -/
  | unknownName (name : List Char)
  | noGroup (index : Nat)
  deriving DecidableEq, Repr

structure Fault where
  reason : Reason
  position : Nat
  deriving DecidableEq, Repr

def Reason.text : Reason → String
  | .unfinished => "bad escape (end of pattern)"
  | .escape c => "bad escape \\" ++ String.singleton c
  | .code digits => "octal escape value \\" ++ String.ofList digits ++ " outside of range 0-0o377"
  | .noBracket => "missing <"
  | .noName => "missing group name"
  | .openName => "missing >, unterminated name"
  | .misnamed name => "bad character in group name " ++ String.ofList (Text.quoted name)
  | .unknownName name => "unknown group name " ++ String.ofList (Text.quoted name)
  | .noGroup index => s!"invalid group reference {index}"

/-- The fault with its place in the template; its line and column too where there are several lines. -/
def Fault.message (template : List Char) (f : Fault) : String :=
  let before := template.take f.position
  let line := before.count '\n' + 1
  let column := (before.reverse.takeWhile (· != '\n')).length + 1
  match f.reason with
  | .unknownName _ => f.reason.text
  | reason =>
    s!"{reason.text} at position {f.position}" ++
      if template.contains '\n' then s!" (line {line}, column {column})" else ""

/-! ## Reading -/

def isOctalDigit (c : Char) : Bool := decide ('0' ≤ c) && decide (c ≤ '7')

/-- The number that ASCII digits write. -/
def number (base : Nat) (digits : List Char) : Nat :=
  digits.foldl (fun n c => base * n + (c.toNat - 0x30)) 0

def groupPart (groups position index : Nat) : Except Fault Part :=
  if index ≤ groups then .ok (.group index) else .error ⟨.noGroup index, position⟩

/-- What the digits behind a backslash stand for, and how many they are. -/
def numberAt (groups position : Nat) (s : List Char) : Except Fault (Part × Nat) :=
  let code := (s.take 3).takeWhile isOctalDigit
  if code.length == 3 || Text.startsWith ['0'] s then
    if number 8 code < 0x100 then .ok (.text [Char.ofNat (number 8 code)], code.length)
    else .error ⟨.code code, position⟩
  else
    let digits := (s.take 2).takeWhile Text.isAsciiDigit
    (groupPart groups (position + 1) (number 10 digits)).map fun part => (part, digits.length)

/-- The name in front of a closing bracket; a backslash takes the character behind it along. -/
def nameIn? : List Char → Option (List Char)
  | [] => none
  | '>' :: _ => some []
  | '\\' :: c :: rest => (nameIn? rest).map (['\\', c] ++ ·)
  | c :: rest => (nameIn? rest).map (c :: ·)

def isIdentifier : List Char → Bool
  | [] => false
  | c :: rest => Text.isIdentifierStart c && rest.all Text.isIdentifierContinue

/-- The group that a name in brackets stands for. -/
def namedPart (groups position : Nat) (name : List Char) : Except Fault Part :=
  if isIdentifier name then .error ⟨.unknownName name, position⟩
  else
    match Integer.read (String.ofList name) with
    | .ok (.ofNat index) => groupPart groups position index
    | _ => .error ⟨.misnamed name, position⟩

/-- What the brackets behind the letter g stand for, and how many characters they are with it. -/
def nameAt (groups position : Nat) : List Char → Except Fault (Part × Nat)
  | '<' :: rest =>
    match nameIn? rest with
    | some [] => .error ⟨.noName, position + 3⟩
    | some name => (namedPart groups (position + 3) name).map fun part => (part, name.length + 3)
    | none => .error ⟨if rest.isEmpty then .noName else .openName, position + 3⟩
  | _ => .error ⟨.noBracket, position + 2⟩

/-- Letters for characters that cannot be shown, and the backslash for itself. -/
def shown : List (Char × Char) :=
  [('a', '\x07'), ('b', '\x08'), ('f', '\x0c'), ('n', '\n'), ('r', '\r'), ('t', '\t'), ('v', '\x0b'), ('\\', '\\')]

/-- What follows a backslash, and how many characters it is. -/
def escapeAt (groups position : Nat) : List Char → Except Fault (Part × Nat)
  | [] => .error ⟨.unfinished, position⟩
  | c :: rest =>
    if c == 'g' then nameAt groups position rest
    else if Text.isAsciiDigit c then numberAt groups position (c :: rest)
    else
      match shown.lookup c with
      | some x => .ok (.text [x], 1)
      | none =>
        if Text.isAsciiLower c || Text.isAsciiUpper c then .error ⟨.escape c, position⟩
        else .ok (.text ['\\', c], 1)

/-- Reads on behind `skip` more characters. -/
def partsFrom (groups : Nat) : Nat → Nat → List Char → Except Fault (List Part)
  | _, _, [] => .ok []
  | skip + 1, position, _ :: rest => partsFrom groups skip (position + 1) rest
  | 0, position, c :: rest =>
    if c == '\\' then
      match escapeAt groups position rest with
      | .ok (part, taken) => (partsFrom groups taken (position + 1) rest).map (part :: ·)
      | .error f => .error f
    else (partsFrom groups 0 (position + 1) rest).map (.text [c] :: ·)

/-- The parts of a template for matches of so many groups. -/
def read (groups : Nat) (template : List Char) : Except Fault (List Part) := partsFrom groups 0 0 template

/-! ## Filling in -/

/-- The part for a match with the given groups, the whole match being the first. -/
def Part.fill (groups : List (List Char)) : Part → List Char
  | .text s => s
  | .group index => groups.getD index []

def fill (parts : List Part) (groups : List (List Char)) : List Char := parts.flatMap (Part.fill groups)

end RouteDoc.Template
