/-
Values as JSON text.

Separators are a comma with a blank and a colon with a blank. Every character
beyond printable ASCII is escaped by its UTF-16 units, so the text is ASCII.
-/
import RouteDoc.Value

namespace RouteDoc.Value

/-- A UTF-16 unit as an escape. -/
def unitEscape (unit : Nat) : List Char := '\\' :: 'u' :: Text.hexDigits 4 unit

/-- A character as it stands in a JSON text. -/
def jsonChar (c : Char) : List Char :=
  if c == '"' then ['\\', '"']
  else if c == '\\' then ['\\', '\\']
  else if c == '\n' then ['\\', 'n']
  else if c == '\r' then ['\\', 'r']
  else if c == '\t' then ['\\', 't']
  else if c.toNat == 0x08 then ['\\', 'b']
  else if c.toNat == 0x0C then ['\\', 'f']
  else if decide (0x20 ≤ c.toNat) && decide (c.toNat ≤ 0x7E) then [c]
  else if c.toNat < 0x10000 then unitEscape c.toNat
  else
    let n := c.toNat - 0x10000
    unitEscape (0xD800 + n / 0x400) ++ unitEscape (0xDC00 + n % 0x400)

def jsonString (s : String) : String :=
  String.ofList ('"' :: (s.toList.flatMap jsonChar ++ ['"']))

def jsonFloat : Binary64 → String
  | .nan => "NaN"
  | .infinite negative => if negative then "-Infinity" else "Infinity"
  | x => x.textString

/-- A key, which is a text in JSON. -/
def jsonKey : Value → String
  | .str s => jsonString s
  | .null => jsonString "null"
  | .bool b => jsonString (if b then "true" else "false")
  | .float x => jsonString (jsonFloat x)
  | v => jsonString v.literal

mutual

/-- The value as JSON; what JSON has no form for is shown as a text. -/
def json : Value → String
  | .null => "null"
  | .bool b => if b then "true" else "false"
  | .int n => intString n
  | .float x => jsonFloat x
  | .str s => jsonString s
  | .list items => "[" ++ Text.joinStrings ", " (jsonItems items) ++ "]"
  | .tuple items => "[" ++ Text.joinStrings ", " (jsonItems items) ++ "]"
  | .map entries => "\x7b" ++ Text.joinStrings ", " (jsonEntries entries) ++ "\x7d"
  | v => jsonString v.literal

def jsonItems : List Value → List String
  | [] => []
  | v :: rest => json v :: jsonItems rest

def jsonEntries : List (Value × Value) → List String
  | [] => []
  | (k, v) :: rest => (jsonKey k ++ ": " ++ json v) :: jsonEntries rest

end

end RouteDoc.Value
