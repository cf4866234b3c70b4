/-
Request types: the structures that say which parts of a path a request binds.

A field of a structure is bound by its tag: `uri:"name"` names a placeholder of
the path. The type of the field gives the kind of the parameter, and a `binding`
that mentions `required` makes it required.
-/
import RouteDoc.Go.Source
import RouteDoc.Text.Search

namespace RouteDoc

open Go

/-- A parameter that a request binds from its path. -/
structure PathParam where
  name : String
  kind : String
  required : Bool
  deriving DecidableEq, Repr

/-- The parameters of a request type by name, in order of their first field. -/
abbrev RequestType := List (String × PathParam)

namespace RequestType

/-- What is said about a parameter; a name with a surrogate in it is none. -/
def get? (t : RequestType) (name : CodeText) : Option PathParam :=
  (t.find? fun e => CodeText.ofString e.1 == name).map (·.2)

/-- The parameters with one more; one of the same name is replaced in its place. -/
def insert (t : RequestType) (p : PathParam) : RequestType :=
  if t.any fun e => e.1 == p.name then t.map fun e => if e.1 == p.name then (p.name, p) else e
  else t ++ [(p.name, p)]

/-- Kinds of parameters by the name of the type of their field. -/
def kinds : List (String × String) :=
  [("int", "integer"), ("int32", "integer"), ("int64", "integer"), ("uint", "integer"),
    ("uint32", "integer"), ("uint64", "integer"), ("float32", "number"), ("float64", "number"),
    ("bool", "boolean")]

/-- The kind of a parameter of a type. -/
def kindOf : TypeExpr → String
  | .name text =>
    match kinds.find? fun e => e.1 == textOf text with
    | some e => e.2
    | none => "string"
  | _ => "string"

/-- The text up to the next double quote, where there is one. -/
def untilQuote (s : List Char) : Option (List Char) :=
  let value := s.takeWhile (· != '"')
  if value.length == s.length then none else some value

/-- The value behind the first `key:"` in a tag that is not empty and is closed by a quote. -/
def uriIn : List Char → Option (List Char)
  | [] => none
  | c :: rest =>
    let here : Option (List Char) :=
      if Text.startsWith "uri:\"".toList (c :: rest) then
        (untilQuote (rest.drop 4)).filter fun value => !value.isEmpty
      else none
    here.or (uriIn rest)

/-- Whether a `binding` of a tag mentions `required`. -/
def requiredIn : List Char → Bool
  | [] => false
  | c :: rest =>
    (Text.startsWith "binding:\"".toList (c :: rest) &&
      match untilQuote (rest.drop 8) with
      | some value => Text.occursIn "required".toList value
      | none => false) || requiredIn rest

/-- The parameter that a field binds. -/
def param? (type : TypeExpr) (tag : Option (List UInt8)) : Option PathParam := do
  let tag := Text.decodeLossy (← tag)
  let name ← uriIn tag
  return ⟨String.ofList name, kindOf type, requiredIn tag⟩

/-- The parameters that the fields of a structure bind; the last field of a name counts. -/
def ofFields (fields : List (TypeExpr × Option (List UInt8))) : RequestType :=
  (fields.filterMap fun f => param? f.1 f.2).foldl insert []

/-- The parameters of a type, where it is a structure. -/
def ofType? : TypeExpr → Option RequestType
  | .struct fields => some (ofFields fields)
  | _ => none

/-- The parameters of the first structure of a name among declared types. -/
def inTypes? (name : String) (declared : List DeclaredType) : Option RequestType :=
  declared.findSome? fun t => if t.name == name then ofType? t.type else none

end RequestType

end RouteDoc
