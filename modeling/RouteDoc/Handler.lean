/-
Handlers: the functions that answer requests.

A handler is a method whose receiver type is named for a handler and which takes
a pointer to a request context. It is documented when its doc block names the
route.
-/
import RouteDoc.Go.Declaration
import RouteDoc.Route
import RouteDoc.Text.Search

namespace RouteDoc

open Go

/-- The type behind one star. A comment behind the star hides the type. -/
def unwrapPointer : TypeExpr → TypeExpr
  | .pointer commented target => if commented then .other else target
  | t => t

/-- The name of the receiver's type: there is one receiver, of a named type or a pointer to one. No
text where that is not so. -/
def receiverType (d : Declaration) : String :=
  match d.function.receiver with
  | some [t] =>
    match unwrapPointer t with
    | .name text => textOf text
    | _ => ""
  | _ => ""

/-- Whether a type is a pointer to the type `Context` of some package. -/
def isContext : TypeExpr → Bool
  | .pointer false (.qualified _ text) => textOf text == "Context"
  | _ => false

/-- Whether a function takes a request context. -/
def takesContext (d : Declaration) : Bool := d.function.params.any isContext

def isHandler (d : Declaration) : Bool :=
  d.isMethod && Text.occursIn "Handler".toList (receiverType d).toList && takesContext d

/-- The word that a documented handler has in its doc block. -/
def routeMarker : List Char := "@Router".toList

/-- Whether the doc block names a route. -/
def isDocumented (d : Declaration) : Bool :=
  d.docTexts.any fun text => Text.occursIn routeMarker text.toList

/-- A recognised handler. -/
structure Handler where
  name : String
  receiver : String
  documented : Bool
  declaration : Declaration

/-- The handler that a function is. -/
def Handler.of? (d : Declaration) : Option Handler :=
  if isHandler d then some ⟨d.name, receiverType d, isDocumented d, d⟩ else none

end RouteDoc
