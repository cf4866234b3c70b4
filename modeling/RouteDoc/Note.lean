/-
Notes: what the library reports while it works.

A note has a level, the name of the part that reports it, a message, named
values, and the handler file it concerns, where there is one. Whether and how a
note is shown is decided elsewhere.
-/
import RouteDoc.Value

namespace RouteDoc

inductive Level where
  | debug
  | info
  | warning
  | error
  deriving DecidableEq, Repr

def Level.number : Level → Int
  | .debug => 10
  | .info => 20
  | .warning => 30
  | .error => 40

/-- Named values in order. -/
abbrev Fields := List (String × Value)

structure Note where
  level : Level
  logger : String
  message : String
  fields : Fields
  file : Option String

/-- The name in front of the names of all parts. -/
def packageName : String := "swagcomment"

/-- The full name of a part. -/
def loggerName (part : String) : String := packageName ++ "." ++ part

end RouteDoc
