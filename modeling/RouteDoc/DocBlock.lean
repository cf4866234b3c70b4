/-
Doc blocks: the comment block that documents a handler.

The block says what the handler is called and does, which tag it has, which
parameters it takes, what it answers and how it is reached. Each line is a line
comment. `describe` turns the words of a name into a sentence, and `paramLines`
lists the placeholders of the path and the request itself.
-/
import RouteDoc.RequestType
import RouteDoc.Route.Canonical
import RouteDoc.Route.Inference

namespace RouteDoc.DocBlock

/-- The words of a name. -/
def summary (name : String) : String := splitCamelString " " name

/-- First words of a name with what they say about it, the first that fits counts. -/
def descriptionLeads : List (String × String) :=
  [("Create", "Creates a new "), ("Get", "Retrieves a single "), ("List", "Retrieves a list of "),
    ("Update", "Updates an existing "), ("Delete", "Deletes an existing ")]

/-- What follows the first word and a blank; the whole text where there is no blank. -/
def afterFirstWord (s : List Char) : List Char :=
  Text.dropLeading (s.takeWhile (· != ' ') ++ [' ']) s

/-- A sentence on what a handler does. -/
def describe (name : String) : String :=
  let words := summary name
  match descriptionLeads.find? fun e => Route.nameStarts name e.1 with
  | none => words
  | some e => e.2 ++ String.ofList (afterFirstWord words.toList)

/-- The tag of the handlers of a receiver type. -/
def tag (receiver : String) : String :=
  Text.lowerString (String.ofList (Text.dropTrailing "Handler".toList receiver.toList))

/-- The status of a successful answer. -/
def statusCode (method : CodeText) : Nat :=
  if method == "post" then 201 else if method == "delete" then 204 else 200

/-- The name of the request type of a handler. -/
def requestName (name : String) : String := "types." ++ name ++ "Req"

/-- Whether a placeholder is named as an id. -/
def namesId (name : CodeText) : Bool :=
  name == "id" || (CodeText.ofString "_id").isSuffixOf name

/-- The kind of a placeholder and whether it is required. What the request type does not say is
assumed. -/
def paramFacts (type : RequestType) (name : CodeText) : String × Bool :=
  match type.get? name with
  | some p => (p.kind, p.required)
  | none => (if namesId name then "integer" else "string", true)

def boolText (b : Bool) : String := if b then "true" else "false"

/-- The line of a placeholder. -/
def paramLine (type : RequestType) (name : CodeText) : CodeText :=
  let (kind, required) := paramFacts type name
  "@Param " ++ name ++ " path " ++ kind ++ " " ++ boolText required ++ " \"" ++ name ++ "\""

/-- The line of the request itself. -/
def requestLine (name : String) (method : CodeText) : String :=
  let place := if method == "get" then "query" else "body"
  let required := if method == "get" then "false" else "true"
  "@Param req " ++ place ++ " " ++ requestName name ++ " " ++ required ++ " \"req\""

def paramLines (type : RequestType) (name : String) (route : Route) : List CodeText :=
  (Route.placeholders route.path).map (paramLine type) ++
    [CodeText.ofString (requestLine name route.method)]

/-- The lines of answers that are failures. -/
def failureLines : List String :=
  ["@Failure 400 \x7bobject\x7d types.Response \"Bad request\"",
    "@Failure 401 \x7bobject\x7d types.Response \"Unauthorized\"",
    "@Failure 500 \x7bobject\x7d types.Response \"Internal server error\""]

def successLine (name : String) (method : CodeText) : String :=
  "@Success " ++ toString (statusCode method) ++ " \x7bobject\x7d types.Response\x7bdata=types." ++
    name ++ "Resp\x7d \"Success\""

/-- The lines of a block. -/
def lines (scheme : CodeText) (type : RequestType) (name receiver : String) (route : Route) :
    List CodeText :=
  [name ++ " godoc", "@Summary " ++ summary name, "@Description " ++ describe name,
    "@Tags " ++ tag receiver, "@Accept json", "@Produce json"].map CodeText.ofString ++
  paramLines type name route ++
  (successLine name route.method :: failureLines).map CodeText.ofString ++
  (if route.secured then ["@Security " ++ scheme] else []) ++
  ["@Router " ++ route.path ++ " [" ++ route.method ++ "]"]

/-- A line as a line comment. -/
def commentLine (line : CodeText) : CodeText := "// " ++ line ++ "\n"

/-- The comment block of a handler. -/
def block (scheme : CodeText) (type : RequestType) (name receiver : String) (route : Route) :
    CodeText :=
  (lines scheme type name receiver route).flatMap commentLine

end RouteDoc.DocBlock
