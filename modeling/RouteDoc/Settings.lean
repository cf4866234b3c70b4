/-
Settings of a run.

`Setting` names the eleven settings. Settings arrive as values of any type under
any name, so they are checked before they become `Settings`: `check` is the one
way to make them, and what it returns is valid. A layer replaces some of them
and leaves the others. Their texts are texts of characters; a generator takes the
two that may hold surrogates beside them.
-/
import RouteDoc.Failure
import RouteDoc.Text.Blank

namespace RouteDoc

/-- The names of the settings, in order. -/
inductive Setting where
  | handlerDir
  | routerFile
  | typesPaths
  | handlerPattern
  | securityScheme
  | apiLead
  | concurrency
  | verbose
  | authorizedGroup
  | publicGroup
  | dryRun
  deriving DecidableEq, Repr

namespace Setting

def all : List Setting :=
  [.handlerDir, .routerFile, .typesPaths, .handlerPattern, .securityScheme, .apiLead,
    .concurrency, .verbose, .authorizedGroup, .publicGroup, .dryRun]

/-- The name by which a setting is given. -/
def key : Setting → String
  | .handlerDir => "handler_dir"
  | .routerFile => "router_file"
  | .typesPaths => "types_paths"
  | .handlerPattern => "handler_pattern"
  | .securityScheme => "security_scheme"
  | .apiLead => "api_prefix"
  | .concurrency => "concurrency"
  | .verbose => "verbose"
  | .authorizedGroup => "authorized_group"
  | .publicGroup => "public_group"
  | .dryRun => "dry_run"

def ofKey? (key : String) : Option Setting := all.find? fun s => s.key == key

end Setting

/-- The settings of a run. -/
structure Settings where
  handlerDir : String
  routerFile : String
  typesPaths : List String
  handlerPattern : String
  securityScheme : String
  apiLead : String
  concurrency : Int
  verbose : Bool
  authorizedGroup : String
  publicGroup : String
  dryRun : Bool
  deriving DecidableEq, Repr

/-- Values for all settings. -/
abbrev RawSettings := Setting → Value

namespace Settings

/-- The number of files handled at once where none is set: one per processor, but at least two. -/
def defaultConcurrency (processors : Option Int) : Int :=
  let n := match processors with
    | some 0 | none => 1
    | some n => n
  max 2 n

/-- What holds where nothing else is said. -/
def defaults : RawSettings
  | .handlerDir => .str "./internal/api/http/web/handler"
  | .routerFile => .str "./internal/api/http/web/router.go"
  | .typesPaths => .tuple [.str "./internal/api/http/web/types/*.go", .str "./pkg/types/*.go"]
  | .handlerPattern => .str "*_handler.go"
  | .securityScheme => .str "BearerAuth"
  | .apiLead => .str ""
  | .concurrency => .int 0
  | .verbose => .bool true
  | .authorizedGroup => .str "authorized"
  | .publicGroup => .str "api"
  | .dryRun => .bool false

/-- The parts of a list written with commas, trimmed, without the empty ones. -/
def splitList (s : String) : List String :=
  ((Text.splitAt ',' s.toList).map Text.trim).filterMap fun part =>
    if part.isEmpty then none else some (String.ofList part)

/-- The value as a list of type globs: a text is split, a list is taken as it is. -/
def typesPathsOf : Value → Except SettingsFault (List Value)
  | .str s => .ok ((splitList s).map .str)
  | .list items | .tuple items => .ok items
  | _ => .error .typesPaths

/-- The value as a text. -/
def text (s : Setting) : Value → Except SettingsFault String
  | .str t => .ok t
  | v => .error (.wrongType s.key v)

/-- The value as an integer. -/
def integer (s : Setting) : Value → Except SettingsFault Int
  | .int n => .ok n
  | v => .error (.wrongType s.key v)

/-- The value as a truth value. -/
def truth (s : Setting) : Value → Except SettingsFault Bool
  | .bool b => .ok b
  | v => .error (.wrongType s.key v)

/-- The values as texts. -/
def texts (items : List Value) : Except SettingsFault (List String) :=
  let read? : Value → Option String
    | .str t => some t
    | _ => none
  match items.mapM read? with
  | some found => .ok found
  | none => .error (.wrongType Setting.typesPaths.key (.tuple items))

/-- Values of the right types, in the order of the settings. -/
def typed (raw : RawSettings) : Except SettingsFault Settings := do
  let items ← typesPathsOf (raw .typesPaths)
  let handlerDir ← text .handlerDir (raw .handlerDir)
  let routerFile ← text .routerFile (raw .routerFile)
  let typesPaths ← texts items
  let handlerPattern ← text .handlerPattern (raw .handlerPattern)
  let securityScheme ← text .securityScheme (raw .securityScheme)
  let apiLead ← text .apiLead (raw .apiLead)
  let concurrency ← integer .concurrency (raw .concurrency)
  let verbose ← truth .verbose (raw .verbose)
  let authorizedGroup ← text .authorizedGroup (raw .authorizedGroup)
  let publicGroup ← text .publicGroup (raw .publicGroup)
  let dryRun ← truth .dryRun (raw .dryRun)
  return ⟨handlerDir, routerFile, typesPaths, handlerPattern, securityScheme, apiLead, concurrency,
    verbose, authorizedGroup, publicGroup, dryRun⟩

/-- The first thing that is wrong with settings of the right types. -/
def fault? (s : Settings) : Option SettingsFault :=
  if s.concurrency < 1 then some .concurrency
  else if s.securityScheme.isEmpty then some .securityScheme
  else if s.handlerPattern.isEmpty then some .handlerPattern
  else if s.authorizedGroup.isEmpty || s.publicGroup.isEmpty then some .emptyGroup
  else if s.authorizedGroup == s.publicGroup then some (.equalGroups s.publicGroup)
  else none

/-- Settings with a concurrency chosen where none is set. -/
def settle (processors : Option Int) (s : Settings) : Settings :=
  if s.concurrency == 0 then { s with concurrency := defaultConcurrency processors } else s

/-- The settings that values make, where they are valid. -/
def check (processors : Option Int) (raw : RawSettings) : Except SettingsFault Settings := do
  let s ← typed raw
  let s := s.settle processors
  match s.fault? with
  | some fault => .error fault
  | none => return s

/-- Settings as values. -/
def raw (s : Settings) : RawSettings
  | .handlerDir => .str s.handlerDir
  | .routerFile => .str s.routerFile
  | .typesPaths => .tuple (s.typesPaths.map .str)
  | .handlerPattern => .str s.handlerPattern
  | .securityScheme => .str s.securityScheme
  | .apiLead => .str s.apiLead
  | .concurrency => .int s.concurrency
  | .verbose => .bool s.verbose
  | .authorizedGroup => .str s.authorizedGroup
  | .publicGroup => .str s.publicGroup
  | .dryRun => .bool s.dryRun

end Settings

/-! ## Layers -/

/-- Values given by name, in order. -/
abbrev Layer := List (String × Value)

namespace Layer

/-- The value that a layer gives to a setting; the last one counts. -/
def value? (l : Layer) (s : Setting) : Option Value :=
  (l.reverse.find? fun e => e.1 == s.key).map (·.2)

/-- Values with those of a layer in place of some of them. -/
def onTop (l : Layer) (raw : RawSettings) : RawSettings := fun s => (l.value? s).getD (raw s)

/-- The names that are no settings, each once and in order. -/
def unknown (l : Layer) : List String :=
  let names := (l.map (·.1)).filter fun name => (Setting.ofKey? name).isNone
  Text.sortStrings names.eraseDups

def isNull : Value → Bool
  | .null => true
  | _ => false

/-- The layer without the names that are given nothing. -/
def given (l : Layer) : Layer := l.filter fun e => !isNull e.2

end Layer

namespace Settings

/-- Settings made from values given by name; the others have their defaults. -/
def make (processors : Option Int) (l : Layer) : Except Failure Settings :=
  match l.find? fun e => (Setting.ofKey? e.1).isNone with
  | some e =>
    .error (if e.1 == "self" then .repeatedArgument "GeneratorConfig.__init__" e.1
      else .unknownSetting e.1)
  | none => (check processors (l.onTop defaults)).mapError .settings

/-- Settings with a layer over them. What the layer leaves out or gives nothing stays. -/
def override (processors : Option Int) (s : Settings) (l : Layer) : Except Failure Settings :=
  if l.any fun e => e.1 == "self" then
    .error (.repeatedArgument "GeneratorConfig.with_overrides" "self")
  else if !l.unknown.isEmpty then .error (.settings (.unknownKeys l.unknown))
  else if l.given.isEmpty then .ok s
  else (check processors (l.given.onTop s.raw)).mapError .settings

/-- The layer that a mapping is, where all its keys are texts. -/
def layerOf (entries : List (Value × Value)) : Except Failure Layer :=
  let read? : Value × Value → Option (String × Value)
    | (.str name, v) => some (name, v)
    | _ => none
  match entries.mapM read? with
  | some l => .ok l
  | none => .error .keyNotText

end Settings

end RouteDoc
