/-
The usage text and the help text.

Both are laid out from the switches: a line takes as many words as fit into it,
and further lines are indented.
-/
import RouteDoc.CommandLine.Switch
import RouteDoc.Note

namespace RouteDoc.CommandLine

/-- The width of the texts. -/
def textWidth : Nat := 78

/-- The column at which the purposes of switches start. -/
def purposeColumn : Nat := 24

/-! ## Lines of words -/

/-- Words put behind a line that is begun, and into further lines. -/
def fillFrom (width : Nat) (line : String) : List String → List String
  | [] => [line]
  | word :: rest =>
    if width < line.length + 1 + word.length then line :: fillFrom width word rest
    else fillFrom width (line ++ " " ++ word) rest

/-- Words in lines, as many in each as fit. -/
def fill (width : Nat) : List String → List String
  | [] => []
  | word :: rest => fillFrom width word rest

def blanks (n : Nat) : String := String.ofList (List.replicate n ' ')

/-- The words of a sentence. -/
def wordsOf (s : String) : List String :=
  (Text.splitAt ' ' s.toList).map String.ofList

/-! ## Usage -/

/-- A switch as the usage text shows it; the two switches that exclude each other stand together. -/
def usagePart (s : Switch) : Option String :=
  match s with
  | .silent => none
  | .verbose => some ("[" ++ Switch.long .verbose ++ " | " ++ Switch.long .silent ++ "]")
  | s =>
    let value := match s.valueName? with
      | some name => " " ++ name
      | none => ""
    some ("[" ++ s.short?.getD s.long ++ value ++ "]")

/-- The usage text. -/
def usage : String :=
  let lead := "usage: " ++ packageName ++ " "
  let lines := fill (textWidth - lead.length) (Switch.all.filterMap usagePart)
  lead ++ Text.joinStrings ("\n" ++ blanks lead.length) lines ++ "\n"

/-! ## Help -/

def description : String :=
  "Automatically generates Swagger comments for Go handler methods. " ++
    "Extracts parameter types from request structs when available."

/-- The names of a switch, with the name of its value. -/
def heading (s : Switch) : String :=
  let names := match s.short? with
    | some short => short ++ ", " ++ s.long
    | none => s.long
  match s.valueName? with
  | some name => names ++ " " ++ name
  | none => names

/-- A switch as the help text shows it. Its purpose starts beside its names where they leave two
blanks of room, and below them otherwise. -/
def helpLines (s : Switch) : List String :=
  let head := "  " ++ heading s
  let purpose := fill (textWidth - purposeColumn) (wordsOf s.purpose)
  let indented := purpose.map fun line => blanks purposeColumn ++ line
  if purposeColumn < head.length + 2 then head :: indented
  else
    match purpose with
    | [] => [head]
    | first :: _ => (head ++ blanks (purposeColumn - head.length) ++ first) :: indented.drop 1

/-- The help text. -/
def help : String :=
  usage ++ "\n" ++ Text.joinStrings "\n" (fill textWidth (wordsOf description)) ++
    "\n\noptions:\n" ++ Text.joinStrings "\n" (Switch.all.flatMap helpLines) ++ "\n"

end RouteDoc.CommandLine
