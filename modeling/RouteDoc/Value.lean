/-
Values of no fixed type.

Settings read from a file, details of a failure and fields of a log record hold
whatever somebody wrote there, so they are values of one dynamic type. `literal`
is the text of a value as a literal: texts quoted, lists in brackets, mappings
in braces. `display` is the same except that a text shows itself unquoted.

Texts are texts of characters here: a value holds no surrogate that stands alone.
-/
import RouteDoc.Binary64.Decimal
import RouteDoc.Text.Quoted
import RouteDoc.Text.Search

namespace RouteDoc

/-- A day of the calendar. -/
structure Day where
  year : Nat
  month : Nat
  day : Nat
  deriving DecidableEq, Repr

/-- A time of a day, with its distance from universal time in minutes where it has one. -/
structure Moment where
  day : Day
  hour : Nat
  minute : Nat
  second : Nat
  micro : Nat
  offset : Option Int
  deriving DecidableEq, Repr

/-- A value of no fixed type. `again` stands for a list or mapping inside itself. -/
inductive Value where
  | null
  | bool (b : Bool)
  | int (n : Int)
  | float (x : Binary64)
  | str (s : String)
  | list (items : List Value)
  | tuple (items : List Value)
  | map (entries : List (Value × Value))
  | set (items : List Value)
  | bytes (data : List UInt8)
  | date (d : Day)
  | moment (m : Moment)
  | again (isMap : Bool)

instance : Inhabited Value := ⟨.null⟩

namespace Value

/-- The name of the type of a value. -/
def typeName : Value → String
  | .null => "NoneType"
  | .bool _ => "bool"
  | .int _ => "int"
  | .float _ => "float"
  | .str _ => "str"
  | .list _ => "list"
  | .tuple _ => "tuple"
  | .map _ => "dict"
  | .set _ => "set"
  | .bytes _ => "bytes"
  | .date _ => "date"
  | .moment _ => "datetime"
  | .again isMap => if isMap then "dict" else "list"

def intText (n : Int) : List Char :=
  Binary64.signText (decide (n < 0)) ++ Nat.toDigits 10 n.natAbs

def intString (n : Int) : String := String.ofList (intText n)

/-- A byte as it is written between the quotes `quote`. -/
def byteText (quote : Char) (b : UInt8) : List Char :=
  let c := Char.ofNat b.toNat
  if b < 0x7F then Text.Quoted.escape quote c else '\\' :: 'x' :: Text.hexDigits 2 b.toNat

def bytesText (data : List UInt8) : List Char :=
  let quote := Text.Quoted.quoteFor (data.map fun b => Char.ofNat b.toNat)
  'b' :: quote :: (data.flatMap (byteText quote) ++ [quote])

def dayText (d : Day) : String :=
  s!"datetime.date({d.year}, {d.month}, {d.day})"

/-- A distance from universal time, in days and seconds. -/
def offsetText (minutes : Int) : String :=
  if minutes == 0 then "datetime.timezone.utc"
  else if minutes < 0 then
    s!"datetime.timezone(datetime.timedelta(days=-1, seconds={intString (86400 + minutes * 60)}))"
  else s!"datetime.timezone(datetime.timedelta(seconds={intString (minutes * 60)}))"

/-- The parts of a moment, without seconds and microseconds that are zero at the end. -/
def momentText (m : Moment) : String :=
  let base := [m.day.year, m.day.month, m.day.day, m.hour, m.minute]
  let parts :=
    if m.micro != 0 then base ++ [m.second, m.micro]
    else if m.second != 0 then base ++ [m.second]
    else base
  let zone := match m.offset with
    | none => []
    | some minutes => ["tzinfo=" ++ offsetText minutes]
  "datetime.datetime(" ++ Text.joinStrings ", " (parts.map toString ++ zone) ++ ")"

mutual

/-- The value as a literal. -/
def literal : Value → String
  | .null => "None"
  | .bool b => if b then "True" else "False"
  | .int n => intString n
  | .float x => x.textString
  | .str s => Text.quotedString s
  | .list items => "[" ++ Text.joinStrings ", " (literals items) ++ "]"
  | .tuple [] => "()"
  | .tuple [item] => "(" ++ literal item ++ ",)"
  | .tuple items => "(" ++ Text.joinStrings ", " (literals items) ++ ")"
  | .map entries => "\x7b" ++ Text.joinStrings ", " (entryLiterals entries) ++ "\x7d"
  | .set [] => "set()"
  | .set items => "\x7b" ++ Text.joinStrings ", " (literals items) ++ "\x7d"
  | .bytes data => String.ofList (bytesText data)
  | .date d => dayText d
  | .moment m => momentText m
  | .again isMap => if isMap then "\x7b...\x7d" else "[...]"

def literals : List Value → List String
  | [] => []
  | v :: rest => literal v :: literals rest

def entryLiterals : List (Value × Value) → List String
  | [] => []
  | (k, v) :: rest => (literal k ++ ": " ++ literal v) :: entryLiterals rest

end

/-- The value as it is shown to a reader: a text as it is, anything else as a literal. -/
def display : Value → String
  | .str s => s
  | v => literal v

/-- Whether the value says something: it is not null, false, zero or empty. -/
def holds : Value → Bool
  | .null => false
  | .bool b => b
  | .int n => n != 0
  | .float x => match x with
    | .finite _ m _ => m != 0
    | _ => true
  | .str s => !s.isEmpty
  | .list items | .tuple items | .set items => !items.isEmpty
  | .map entries => !entries.isEmpty
  | .bytes data => !data.isEmpty
  | .date _ | .moment _ | .again _ => true

/-- Equality of floating point numbers: the two zeros are equal, and what is no number
equals nothing. -/
def sameFloat : Binary64 → Binary64 → Bool
  | .nan, _ | _, .nan => false
  | .infinite a, .infinite b => a == b
  | .finite _ 0 _, .finite _ 0 _ => true
  | .finite a m p, .finite b n q => a == b && m == n && p == q
  | _, _ => false

/-- Whether a floating point number has the value of an integer. -/
def sameNumber : Binary64 → Int → Bool
  | .finite negative m p, n =>
    let value := Binary64.fraction m p
    value.1 == n.natAbs * value.2 && (n == 0 || negative == decide (n < 0))
  | _, _ => false

mutual

/-- Equality of values, as the keys of a mapping are compared: a boolean equals the integers zero
and one, and an integer equals the floating point number of its value. -/
def same : Value → Value → Bool
  | .null, .null => true
  | .bool a, .bool b => a == b
  | .bool a, .int n | .int n, .bool a => n == (if a then 1 else 0)
  | .int a, .int b => a == b
  | .float x, .float y => sameFloat x y
  | .float x, .int n | .int n, .float x => sameNumber x n
  | .float x, .bool a | .bool a, .float x => sameNumber x (if a then 1 else 0)
  | .str a, .str b => a == b
  | .list as, .list bs | .tuple as, .tuple bs | .set as, .set bs => sameAll as bs
  | .bytes a, .bytes b => a == b
  | .date a, .date b => a == b
  | .moment a, .moment b => a == b
  | _, _ => false

def sameAll : List Value → List Value → Bool
  | [], [] => true
  | a :: as, b :: bs => same a b && sameAll as bs
  | _, _ => false

end

/-- A value under a text key of a list of entries. -/
def field? (key : String) (entries : List (Value × Value)) : Option Value :=
  (entries.find? fun e => same e.1 (.str key)).map (·.2)

/-- Entries with `key` set to `value`: an entry keeps its place, a new one comes last. -/
def insert (entries : List (Value × Value)) (key value : Value) : List (Value × Value) :=
  if entries.any fun e => same e.1 key then
    entries.map fun e => if same e.1 key then (e.1, value) else e
  else entries ++ [(key, value)]

end Value

end RouteDoc
