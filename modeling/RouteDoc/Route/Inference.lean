/-
Routes inferred from the names of handlers.

A handler that the router does not register is documented by what its name
suggests: the first word decides the method, the words in lower case and with
hyphens between them make the path, and a name that speaks of logging in,
registering, captchas or the public is reachable without authentication.
-/
import RouteDoc.Camel
import RouteDoc.Route
import RouteDoc.Text.Casing
import RouteDoc.Text.Search

namespace RouteDoc.Route

def nameStarts (name lead : String) : Bool := Text.startsWith lead.toList name.toList

def nameHas (name part : String) : Bool := Text.occursIn part.toList name.toList

/-- The first words that stand for a method other than `get`. -/
def methodLeads : List (List String × String) :=
  [(["Create", "Add"], "post"), (["Update", "Modify"], "put"), (["Patch", "Partial"], "patch"),
    (["Delete", "Remove"], "delete")]

/-- The method that a name suggests. -/
def inferMethod (name : String) : String :=
  match methodLeads.find? fun e => e.1.any (nameStarts name) with
  | some e => e.2
  | none => "get"

/-- Words that are dropped from the front of a path, in this order, each at most once. -/
def pathLeads : List String := ["get-", "list-", "create-", "update-", "delete-", "handle-"]

/-- The words of a name in lower case with hyphens between them. -/
def kebab (name : String) : List Char := Text.lower (splitCamel ['-'] name.toList)

/-- The words of a path that is to name a resource. -/
def resourceWords (name : String) : List Char :=
  pathLeads.foldl (fun path lead => Text.dropLeading lead.toList path) (kebab name)

/-- Whether a name speaks of one resource by its id. -/
def namesOne (name : String) : Bool :=
  nameHas name "ById" || nameStarts name "Get" || nameStarts name "Update" ||
    nameStarts name "Delete"

/-- The path that a name suggests. -/
def inferPath (name : String) : String :=
  let words := resourceWords name
  if namesOne name then
    "/" ++ String.ofList (Text.untilText "-by-id".toList words) ++ "/\x7bid\x7d"
  else if nameStarts name "List" then
    "/" ++ String.ofList (Text.dropLeading "list-".toList words)
  else "/" ++ String.ofList words

/-- Parts of a name that speak of a route without authentication. -/
def publicParts : List String := ["Login", "Register", "Captcha", "Public"]

def inferSecured (name : String) : Bool := !publicParts.any (nameHas name)

/-- The route that a name suggests. -/
def infer (name : String) : Route := ⟨inferPath name, inferMethod name, name, inferSecured name⟩

/-- The route with `lead` in front of its path, unless it is there already. -/
def withLead (lead : CodeText) (r : Route) : Route :=
  if lead.isEmpty || lead.isPrefixOf r.path then r
  else { r with path := lead ++ r.path }

/-- The route of a handler: the registered one, or else the inferred one. -/
def resolve (table : RouteTable) (lead : CodeText) (name : String) : Route :=
  withLead lead ((table.get? name).getD (infer name))

end RouteDoc.Route
