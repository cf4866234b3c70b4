/-
Routes and the table of routes.

A route binds a handler to a path and a method and says whether a request has to
be authenticated. A table keeps one route for each handler, in the order in
which the handlers were first entered; entering a handler again replaces its
route and leaves its place. Whoever hands over a table may give a path or a
method that is no text of characters.
-/
import RouteDoc.Text.CodeText

namespace RouteDoc

structure Route where
  path : CodeText
  method : CodeText
  handler : String
  secured : Bool
  deriving DecidableEq, Repr

/-- Routes by the name of their handler. -/
abbrev RouteTable := List (String × Route)

namespace RouteTable

def get? (t : RouteTable) (handler : String) : Option Route :=
  (t.find? fun e => e.1 == handler).map (·.2)

/-- The table with `route` entered for `handler`. -/
def insert (t : RouteTable) (handler : String) (route : Route) : RouteTable :=
  if t.any fun e => e.1 == handler then
    t.map fun e => if e.1 == handler then (handler, route) else e
  else t ++ [(handler, route)]

/-- The table of entries that are made one after the other. -/
def ofEntries (entries : List (String × Route)) : RouteTable :=
  entries.foldl (fun t e => t.insert e.1 e.2) []

end RouteTable

end RouteDoc
