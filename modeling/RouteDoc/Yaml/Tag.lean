/-
Tags of scalars: what a text without a tag is taken for.

A plain text can be a truth value, a number, a date, nothing at all, or one of
two signs with a meaning in mappings; anything else is a text. The kinds are
tried in this order.
-/
import RouteDoc.Text.Search

namespace RouteDoc.Yaml.Tag

/-- What the tags of the language start with. -/
def lead : String := "tag:yaml.org,2002:"

def bool : String := lead ++ "bool"
def float : String := lead ++ "float"
def int : String := lead ++ "int"
def merge : String := lead ++ "merge"
def null : String := lead ++ "null"
def timestamp : String := lead ++ "timestamp"
def defaultValue : String := lead ++ "value"
def str : String := lead ++ "str"
def sequence : String := lead ++ "seq"
def mapping : String := lead ++ "map"
def binary : String := lead ++ "binary"
def pairs : String := lead ++ "pairs"
def ordered : String := lead ++ "omap"
def set : String := lead ++ "set"

def isDigit (c : Char) : Bool := '0' ≤ c && c ≤ '9'

def isDigitOrBar (c : Char) : Bool := isDigit c || c == '_'

/-- The text behind a sign, where there is one. -/
def unsigned : List Char → List Char
  | '+' :: rest => rest
  | '-' :: rest => rest
  | s => s

def isBool (s : List Char) : Bool :=
  ["yes", "Yes", "YES", "no", "No", "NO", "true", "True", "TRUE", "false", "False", "FALSE",
    "on", "On", "ON", "off", "Off", "OFF"].any fun w => w.toList == s

def isNull (s : List Char) : Bool := ["~", "null", "Null", "NULL", ""].any fun w => w.toList == s

/-- Parts between colons from the second on: at most 59 in one or two digits. -/
def isSixtieth : List Char → Bool
  | [a] => isDigit a
  | [a, b] => '0' ≤ a && a ≤ '5' && isDigit b
  | _ => false

/-- An integer in some base, or in parts of sixty. -/
def isInt (s : List Char) : Bool :=
  match unsigned s with
  | '0' :: 'b' :: rest => !rest.isEmpty && rest.all fun c => c == '0' || c == '1' || c == '_'
  | '0' :: 'x' :: rest =>
    !rest.isEmpty && rest.all fun c =>
      isDigitOrBar c || ('a' ≤ c && c ≤ 'f') || ('A' ≤ c && c ≤ 'F')
  | '0' :: rest => rest.all fun c => ('0' ≤ c && c ≤ '7') || c == '_'
  | c :: rest =>
    '1' ≤ c && c ≤ '9' &&
      match Text.splitAt ':' rest with
      | whole :: parts => whole.all isDigitOrBar && parts.all isSixtieth
      | [] => false
  | [] => false

/-- An exponent with its sign, or nothing. -/
def isExponent : List Char → Bool
  | [] => true
  | e :: sign :: rest =>
    (e == 'e' || e == 'E') && (sign == '+' || sign == '-') && !rest.isEmpty && rest.all isDigit
  | _ => false

/-- What can follow the point of a number. -/
def isFraction (s : List Char) : Bool := isExponent (s.dropWhile isDigitOrBar)

/-- A number with a point: in decimal digits, in parts of sixty, or one of the special values. -/
def isFloat (s : List Char) : Bool :=
  let body := unsigned s
  match body with
  | '.' :: rest =>
    (["inf", "Inf", "INF"].any fun w => w.toList == rest) ||
    (body == s && ((["nan", "NaN", "NAN"].any fun w => w.toList == rest) ||
      (rest.head?.any isDigit && isFraction rest)))
  | c :: _ =>
    isDigit c &&
      (let whole := body.takeWhile (· != '.')
       let fraction := (body.dropWhile (· != '.')).drop 1
       decide (whole.length < body.length) &&
        match Text.splitAt ':' whole with
        | [digits] => digits.all isDigitOrBar && isFraction fraction
        | digits :: parts =>
          digits.all isDigitOrBar && parts.all isSixtieth && fraction.all isDigitOrBar
        | [] => false)
  | [] => false

/-! ## Dates and times -/

/-- A date and perhaps a time, as the digits they are written in. -/
structure Written where
  year : List Char
  month : List Char
  day : List Char
  time : Option (List Char × List Char × List Char)
  fraction : List Char
  /-- The sign, hours and minutes of the distance from universal time. -/
  zone : Option (Option Char × List Char × List Char)

/-- Between `least` and `most` digits in front of a text, as many as there are. -/
def digits (least most : Nat) (s : List Char) : Option (List Char × List Char) :=
  let found := (s.take most).takeWhile isDigit
  if least ≤ found.length then some (found, s.drop found.length) else none

def after (c : Char) : List Char → Option (List Char)
  | x :: rest => if x == c then some rest else none
  | [] => none

/-- A distance from universal time at the end of a text. -/
def zoneOf (s : List Char) : Option (Option (Option Char × List Char × List Char)) :=
  let blank := s.dropWhile fun c => c == ' ' || c == '\t'
  match blank with
  | [] => if s.isEmpty then some none else none
  | ['Z'] => some (some (none, [], []))
  | sign :: rest =>
    if sign == '+' || sign == '-' then do
      let (hours, rest) ← digits 1 2 rest
      match rest with
      | [] => return some (some sign, hours, [])
      | _ => do
        let rest ← after ':' rest
        let (minutes, rest) ← digits 2 2 rest
        if rest.isEmpty then return some (some sign, hours, minutes) else none
    else none

/-- The time in a text that starts with what separates it from the date. -/
def timeOf (s : List Char) :
    Option ((List Char × List Char × List Char) × List Char ×
      Option (Option Char × List Char × List Char)) := do
  let s ← match s with
    | 'T' :: rest | 't' :: rest => some rest
    | _ =>
      let rest := s.dropWhile fun c => c == ' ' || c == '\t'
      if rest.length < s.length then some rest else none
  let (hour, s) ← digits 1 2 s
  let s ← after ':' s
  let (minute, s) ← digits 2 2 s
  let s ← after ':' s
  let (second, s) ← digits 2 2 s
  let (fraction, s) := match s with
    | '.' :: rest => (rest.takeWhile isDigit, rest.dropWhile isDigit)
    | _ => ([], s)
  let zone ← zoneOf s
  return ((hour, minute, second), fraction, zone)

/-- A date, perhaps with a time. -/
def written (s : List Char) : Option Written := do
  let (year, s) ← digits 4 4 s
  let s ← after '-' s
  let (month, s) ← digits 1 2 s
  let s ← after '-' s
  let (day, s) ← digits 1 2 s
  if s.isEmpty then return ⟨year, month, day, none, [], none⟩
  else do
    let (time, fraction, zone) ← timeOf s
    return ⟨year, month, day, some time, fraction, zone⟩

/-- A date, perhaps with a time; without one, month and day have two digits. -/
def isTimestamp (s : List Char) : Bool :=
  match written s with
  | none => false
  | some w => w.time.isSome || (w.month.length == 2 && w.day.length == 2)

/-- A text without a line end at its end. -/
def withoutLineEnd (s : List Char) : List Char :=
  match s.reverse with
  | '\n' :: rest => rest.reverse
  | _ => s

/-- The tag of a scalar without one. Only a plain text is looked at. -/
def ofScalar (plain : Bool) (text : String) : String :=
  let s := withoutLineEnd text.toList
  if !plain then str
  else if isBool s then bool
  else if isFloat s then float
  else if isInt s then int
  else if s == ['<', '<'] then merge
  else if isNull s && (text.isEmpty || !s.isEmpty) then null
  else if isTimestamp s then timestamp
  else if s == ['='] then defaultValue
  else str

end RouteDoc.Yaml.Tag
