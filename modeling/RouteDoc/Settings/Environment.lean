/-
Settings from environment variables.
-/
import RouteDoc.Integer
import RouteDoc.Settings
import RouteDoc.Text.Casing

namespace RouteDoc.Settings

/-- Variables with the settings they give, in order. -/
def variableNames : List (String × Setting) :=
  [("SWAGCOMMENT_HANDLER_DIR", .handlerDir), ("SWAGCOMMENT_ROUTER_FILE", .routerFile),
    ("SWAGCOMMENT_TYPES_PATHS", .typesPaths), ("SWAGCOMMENT_HANDLER_PATTERN", .handlerPattern),
    ("SWAGCOMMENT_SECURITY_SCHEME", .securityScheme), ("SWAGCOMMENT_API_PREFIX", .apiLead),
    ("SWAGCOMMENT_CONCURRENCY", .concurrency), ("SWAGCOMMENT_VERBOSE", .verbose),
    ("SWAGCOMMENT_AUTHORIZED_GROUP", .authorizedGroup),
    ("SWAGCOMMENT_PUBLIC_GROUP", .publicGroup)]

/-- Variables by name. -/
abbrev Environment := List (String × String)

def Environment.get? (env : Environment) (name : String) : Option String :=
  (env.find? fun e => e.1 == name).map (·.2)

/-- A truth value as somebody writes it. -/
def truthOf (name text : String) : Except SettingsFault Bool :=
  let word := String.ofList (Text.lower (Text.trim text.toList))
  if ["1", "true", "yes", "on"].contains word then .ok true
  else if ["0", "false", "no", "off"].contains word then .ok false
  else .error (.notBoolean name text)

/-- The value that a variable gives to a setting. -/
def variableValue (name : String) (s : Setting) (text : String) : Except SettingsFault Value :=
  match s with
  | .concurrency =>
    match Integer.read text with
    | .ok n => .ok (.int n)
    | .error _ => .error (.notInteger name text)
  | .verbose => (truthOf name text).map .bool
  | .typesPaths => .ok (.tuple ((splitList text).map .str))
  | _ => .ok (.str text)

/-- The layer of some variables, in their order. -/
def layerOfVariables (env : Environment) :
    List (String × Setting) → Except SettingsFault Layer
  | [] => .ok []
  | (name, s) :: rest =>
    match env.get? name with
    | none => layerOfVariables env rest
    | some text => do
      let v ← variableValue name s text
      let more ← layerOfVariables env rest
      return (s.key, v) :: more

/-- The layer that the environment gives. -/
def environmentLayer (env : Environment) : Except SettingsFault Layer :=
  layerOfVariables env variableNames

end RouteDoc.Settings
