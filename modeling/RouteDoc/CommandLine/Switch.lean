/-
The switches of the command line.

Each has a long name, and one has a short name besides. Some take a value, and
most of those are settings of a run.
-/
import RouteDoc.Settings

namespace RouteDoc.CommandLine

inductive Switch where
  | help
  | handlers
  | router
  | types
  | handlerPattern
  | security
  | apiLead
  | concurrency
  | authorizedGroup
  | publicGroup
  | verbose
  | silent
  | config
  | dryRun
  | logFormat
  | version
  deriving DecidableEq, Repr

namespace Switch

/-- All switches, in the order in which they are listed. -/
def all : List Switch :=
  [.help, .handlers, .router, .types, .handlerPattern, .security, .apiLead, .concurrency,
    .authorizedGroup, .publicGroup, .verbose, .silent, .config, .dryRun, .logFormat, .version]

def long : Switch → String
  | .help => "--help"
  | .handlers => "--handlers"
  | .router => "--router"
  | .types => "--types"
  | .handlerPattern => "--handler-pattern"
  | .security => "--security"
  | .apiLead => "--api-prefix"
  | .concurrency => "--concurrency"
  | .authorizedGroup => "--authorized-group"
  | .publicGroup => "--public-group"
  | .verbose => "--verbose"
  | .silent => "--silent"
  | .config => "--config"
  | .dryRun => "--dry-run"
  | .logFormat => "--log-format"
  | .version => "--version"

def short? : Switch → Option String
  | .help => some "-h"
  | _ => none

/-- The names of a switch, as messages give them. -/
def label (s : Switch) : String :=
  match s.short? with
  | some short => short ++ "/" ++ s.long
  | none => s.long

/-- The forms in which the journal can be written. -/
def logFormats : List String := ["text", "json"]

/-- The name of the value that a switch takes, for those that take one. -/
def valueName? : Switch → Option String
  | .handlers => some "HANDLER_DIR"
  | .router => some "ROUTER_FILE"
  | .types => some "TYPES_PATHS"
  | .handlerPattern => some "HANDLER_PATTERN"
  | .security => some "SECURITY_SCHEME"
  | .apiLead => some "API_PREFIX"
  | .concurrency => some "CONCURRENCY"
  | .authorizedGroup => some "AUTHORIZED_GROUP"
  | .publicGroup => some "PUBLIC_GROUP"
  | .config => some "CONFIG"
  | .logFormat => some ("\x7b" ++ Text.joinStrings "," logFormats ++ "\x7d")
  | .help | .verbose | .silent | .dryRun | .version => none

def takesValue (s : Switch) : Bool := s.valueName?.isSome

/-- What a switch is for. -/
def purpose : Switch → String
  | .help => "show this help message and exit"
  | .handlers => "Directory containing handler files"
  | .router => "Router file path"
  | .types => "Comma-separated list of glob patterns for type definition files"
  | .handlerPattern => "Pattern to match handler files"
  | .security => "Security scheme name"
  | .apiLead => "API prefix for paths"
  | .concurrency => "Number of concurrent workers (default: CPU count)"
  | .authorizedGroup => "Router group identifier for authenticated routes"
  | .publicGroup => "Router group identifier for public routes"
  | .verbose => "Enable verbose output"
  | .silent => "Silent mode (no output except errors)"
  | .config => "Path to a .swagcomment.yaml file"
  | .dryRun => "Show changes without writing"
  | .logFormat => "Log output format"
  | .version => "show program's version number and exit"

/-- The setting that the value of a switch is for. -/
def setting? : Switch → Option Setting
  | .handlers => some .handlerDir
  | .router => some .routerFile
  | .types => some .typesPaths
  | .handlerPattern => some .handlerPattern
  | .security => some .securityScheme
  | .apiLead => some .apiLead
  | .concurrency => some .concurrency
  | .authorizedGroup => some .authorizedGroup
  | .publicGroup => some .publicGroup
  | _ => none

/-- The switch of a long name. -/
def ofLong? (name : String) : Option Switch := all.find? fun s => s.long == name

/-- The switches whose long names start with a text. -/
def startingWith (start : String) : List Switch :=
  all.filter fun s => start.toList.isPrefixOf s.long.toList

end Switch

end RouteDoc.CommandLine
