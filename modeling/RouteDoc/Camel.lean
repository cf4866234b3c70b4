/-
Words of a camel-case name.

A new word starts at an ASCII capital that follows an ASCII small letter or
digit. `splitCamel` puts a separator at each such boundary and changes nothing
else; capitals in a row and letters of other scripts make no boundary.

A separator that a caller gives is put into a replacement template, where a
backslash or a digit at its start is not read as text. `splitWords` reads the
template and rewrites the name by it, from left to right: the two characters at
a boundary are taken together, and the text goes on behind them.
-/
import RouteDoc.Template
import RouteDoc.Text.Word

namespace RouteDoc

/-- Whether a new word starts at `b` when `a` stands before it. -/
def isCamelBoundary (a b : Char) : Bool :=
  (Text.isAsciiLower a || Text.isAsciiDigit a) && Text.isAsciiUpper b

/-- The text with `sep` put in at every boundary. -/
def splitCamel (sep : List Char) : List Char → List Char
  | [] => []
  | [a] => [a]
  | a :: b :: rest =>
    if isCamelBoundary a b then a :: (sep ++ splitCamel sep (b :: rest))
    else a :: splitCamel sep (b :: rest)

def splitCamelString (sep name : String) : String :=
  String.ofList (splitCamel sep.toList name.toList)

/-- The text with what a template makes of it in the place of the two characters at each boundary. -/
def rewriteCamel (parts : List Template.Part) : List Char → List Char
  | [] => []
  | [a] => [a]
  | a :: b :: rest =>
    if isCamelBoundary a b then Template.fill parts [[a, b], [a], [b]] ++ rewriteCamel parts rest
    else a :: rewriteCamel parts (b :: rest)

/-- The first group, a separator and the second group. -/
def camelTemplate (sep : List Char) : List Char := '\\' :: '1' :: (sep ++ ['\\', '2'])

/-- The name with a separator between its words, as the template of the separator says. -/
def splitWords (sep name : String) : Except Template.Fault String :=
  (Template.read 2 (camelTemplate sep.toList)).map fun parts => String.ofList (rewriteCamel parts name.toList)

end RouteDoc
