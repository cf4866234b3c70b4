/-
Quoted literals: a text on one line, between quotes, with escapes for what
cannot be shown.

The quote is the single one, unless the text holds a single quote and no double
one. The quote in use and the backslash are escaped; tab, line feed and carriage
return have letters of their own, and any other character that is not printable
is written by its code point in two, four or eight hexadecimal digits.
-/
import RouteDoc.Text.Printable

namespace RouteDoc.Text

def hexDigit (n : Nat) : Char :=
  if n < 10 then Char.ofNat (0x30 + n) else Char.ofNat (0x57 + n)

/-- The lowest `width` hexadecimal digits of `n`, in lower case. -/
def hexDigits : Nat → Nat → List Char
  | 0, _ => []
  | width + 1, n => hexDigits width (n / 16) ++ [hexDigit (n % 16)]

namespace Quoted

/-- The quote put around `s`. -/
def quoteFor (s : List Char) : Char :=
  if s.contains '\'' && !s.contains '"' then '"' else '\''

/-- `c` as it is written between the quotes `quote`. -/
def escape (quote c : Char) : List Char :=
  if c == quote || c == '\\' then ['\\', c]
  else if c == '\n' then ['\\', 'n']
  else if c == '\r' then ['\\', 'r']
  else if c == '\t' then ['\\', 't']
  else if isPrintable c then [c]
  else if c.toNat < 0x100 then '\\' :: 'x' :: hexDigits 2 c.toNat
  else if c.toNat < 0x10000 then '\\' :: 'u' :: hexDigits 4 c.toNat
  else '\\' :: 'U' :: hexDigits 8 c.toNat

end Quoted

/-- `s` as a quoted literal. -/
def quoted (s : List Char) : List Char :=
  let quote := Quoted.quoteFor s
  quote :: (s.flatMap (Quoted.escape quote) ++ [quote])

def quotedString (s : String) : String := String.ofList (quoted s.toList)

end RouteDoc.Text
