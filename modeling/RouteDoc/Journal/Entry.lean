/-
Entries of the journal: how a line of it is written.

An entry is written as one line of text for a reader, or as a JSON object. The
fields of an entry come after the parts that every entry has, and in JSON a
field of the same name replaces such a part in its place.
-/
import RouteDoc.Failure
import RouteDoc.Note
import RouteDoc.Value.Json

namespace RouteDoc.Journal

/-- A time of day on a calendar day. -/
structure Clock where
  year : Nat
  month : Nat
  day : Nat
  hour : Nat
  minute : Nat
  second : Nat
  micro : Nat

namespace Clock

def two (n : Nat) : String := String.ofList (Binary64.padded 2 n)

/-- The time with blanks, to the second; the year has as many digits as it needs. -/
def plain (c : Clock) : String :=
  toString c.year ++ "-" ++ two c.month ++ "-" ++ two c.day ++ " " ++ two c.hour ++ ":" ++
    two c.minute ++ ":" ++ two c.second

/-- The time without blanks; microseconds only where there are any. -/
def iso (c : Clock) : String :=
  String.ofList (Binary64.padded 4 c.year) ++ "-" ++ two c.month ++ "-" ++ two c.day ++ "T" ++
    two c.hour ++ ":" ++ two c.minute ++ ":" ++ two c.second ++
    (if c.micro == 0 then "" else "." ++ String.ofList (Binary64.padded 6 c.micro)) ++ "Z"

end Clock

/-- A moment, on the clock of the place and on the universal one. -/
structure Moment where
  here : Clock
  universal : Clock

/-- An entry as it is written. -/
structure Entry where
  timestamp : String
  level : String
  logger : String
  message : String
  fields : Fields
  /-- The file that the entry concerns; a value that says nothing stands for none. -/
  sourceFile : Value
  /-- What is known about an error; nothing where there was none. -/
  error : Details

namespace Entry

/-- The entry as a mapping. -/
def toMap (e : Entry) : Details :=
  let base : Details :=
    [fact "ts" e.timestamp, fact "level" e.level, fact "logger" e.logger, fact "msg" e.message] ++
    (if e.sourceFile.holds then [(.str "source_file", e.sourceFile)] else [])
  let full := e.fields.foldl (fun m f => Value.insert m (.str f.1) f.2) base
  if e.error.isEmpty then full else Value.insert full (.str "exception") (.map e.error)

/-- The entry as a JSON object. -/
def json (e : Entry) : String := (Value.map e.toMap).json

/-- A field as text. -/
def fieldText (f : String × Value) : String := f.1 ++ "=" ++ f.2.display

/-- The entry as text. -/
def text (e : Entry) : String :=
  let trace := ((Value.field? "traceback" e.error).getD (.str "")).display
  Text.joinStrings " "
    ([e.timestamp, "[" ++ e.level ++ "]", "[" ++ e.logger ++ "]"] ++
    (if e.sourceFile.holds then ["[" ++ e.sourceFile.display ++ "]"] else []) ++
    [e.message] ++
    (if e.fields.isEmpty then [] else [Text.joinStrings " " (e.fields.map fieldText)]) ++
    (if e.error.isEmpty then [] else ["\n" ++ trace]))

end Entry

end RouteDoc.Journal
