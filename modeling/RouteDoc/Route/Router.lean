/-
The router file: a text file whose registrations make the route table.
-/
import RouteDoc.Route.Registration
import RouteDoc.Workspace

namespace RouteDoc.Route

/-- The text of a file, with every line end as a line feed. -/
def readText (w : Workspace) (path : String) : Except String String :=
  match w.read path with
  | .error fault => .error (fault.message path)
  | .ok bytes =>
    match Text.decode bytes with
    | .error fault => .error fault.message
    | .ok chars => .ok (String.ofList (Text.unifyLines chars))

/-- The routes that the file at a path registers. -/
def readRouter (w : Workspace) (g : Groups) (path : String) : Except Failure RouteTable :=
  match readText w path with
  | .error reason => .error (.unreadableRouter path reason)
  | .ok source => .ok (parseRoutes g source)

end RouteDoc.Route
