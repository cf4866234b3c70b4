/-
What can go wrong, and how it is said.

A `Failure` is a cause. Its `message` is the sentence shown to the user, its
`details` the facts behind it as a mapping, and `report` is both together. The
failures of the tool itself form families: `Kind` names them, and
`Kind.lineage` leads from a kind to the families it belongs to.
-/
import RouteDoc.Value
import RouteDoc.Text.CodeText

namespace RouteDoc

/-- Why a file cannot be opened. -/
inductive FileFault where
  | missing
  | isDirectory
  | notDirectory
  deriving DecidableEq, Repr

def FileFault.code : FileFault → Nat
  | .missing => 2
  | .isDirectory => 21
  | .notDirectory => 20

def FileFault.text : FileFault → String
  | .missing => "No such file or directory"
  | .isDirectory => "Is a directory"
  | .notDirectory => "Not a directory"

/-- The fault at the path `path`, as it was given. -/
def FileFault.message (fault : FileFault) (path : String) : String :=
  s!"[Errno {fault.code}] {fault.text}: " ++ Text.quotedString path

/-- The sentence for a fault in the bytes of a text. -/
def Text.Utf8Fault.message (f : Text.Utf8Fault) : String :=
  let place :=
    if f.stop == f.start + 1 then
      s!"byte 0x{String.ofList (Text.hexDigits 2 f.byte.toNat)} in position {f.start}"
    else s!"bytes in position {f.start}-{f.stop - 1}"
  s!"'utf-8' codec can't decode {place}: {f.reason.message}"

/-- Details of a failure: named facts in order. -/
abbrev Details := List (Value × Value)

/-- A text as a fact. -/
def fact (name value : String) : Value × Value := (.str name, .str value)

/-- What is wrong with settings. -/
inductive SettingsFault where
  /-- A free statement with details. -/
  | stated (message : String) (details : Details)
  /-- The list of type globs is neither a text nor a list. -/
  | typesPaths
  /-- A field holds a value of a type it cannot have. -/
  | wrongType (field : String) (value : Value)
  | concurrency
  | securityScheme
  | handlerPattern
  | emptyGroup
  | equalGroups (group : String)
  /-- Names that are no fields, in order. -/
  | unknownKeys (names : List String)
  | notInteger (variableName text : String)
  | notBoolean (variableName text : String)
  | unreadableFile (path : String) (fault : FileFault)
  | invalidYaml (path reason : String)
  | notMapping (path : String)

def SettingsFault.message : SettingsFault → String
  | .stated message _ => message
  | .typesPaths => "types_paths must be a string or a list of strings"
  | .wrongType field value => s!"{field} has invalid type {value.typeName}"
  | .concurrency => "concurrency must be at least 1"
  | .securityScheme => "security_scheme must not be empty"
  | .handlerPattern => "handler_pattern must not be empty"
  | .emptyGroup => "router group identifiers must not be empty"
  | .equalGroups _ => "authorized_group and public_group must differ"
  | .unknownKeys names => "Unknown configuration keys: " ++ Text.joinStrings ", " names
  | .notInteger name text => s!"{name} must be an integer, got " ++ Text.quotedString text
  | .notBoolean name text => s!"{name} must be a boolean, got " ++ Text.quotedString text
  | .unreadableFile path fault => s!"Could not read config file {path}: {fault.message path}"
  | .invalidYaml path reason => s!"Invalid YAML in config file {path}: {reason}"
  | .notMapping path => s!"Config file {path} must contain a mapping"

def SettingsFault.details : SettingsFault → Details
  | .stated _ details => details
  | .wrongType field value => [fact "field" field, (.str "value", value)]
  | .equalGroups group => [fact "group" group]
  | _ => []

/-- What is wrong with a value written in a settings file, where the file as such can be read. -/
inductive ValueFault where
  | notInteger (base : Nat) (text : String)
  | tooManyDigits (count : Nat)
  | notFloat (text : String)
  /-- A number without any character. -/
  | noNumber
  /-- An escape for a character that does not exist; `wide` where its number needs more than 31
  bits. -/
  | noCharacter (wide : Bool)
  | notBoolean (text : String)
  | notTimestamp
  | year (n : Nat)
  | month
  | day
  | hour
  | minute
  | second
  | offset (minutes : Int)

/-- A distance from universal time of a day or more. -/
def ValueFault.offsetMessage (minutes : Int) : String :=
  let days := minutes / 1440
  let seconds := minutes % 1440 * 60
  let parts := (if days == 0 then [] else ["days=" ++ Value.intString days]) ++
    (if seconds == 0 then [] else ["seconds=" ++ Value.intString seconds])
  "offset must be a timedelta strictly between -timedelta(hours=24) and timedelta(hours=24), not "
    ++ "datetime.timedelta(" ++ Text.joinStrings ", " parts ++ ")."

def ValueFault.message : ValueFault → String
  | .notInteger base text =>
    s!"invalid literal for int() with base {base}: " ++
      String.ofList ((Text.quoted text.toList).take 200)
  | .tooManyDigits count =>
    "Exceeds the limit (4300 digits) for integer string conversion: value has " ++
      s!"{count} digits; use sys.set_int_max_str_digits() to increase the limit"
  | .notFloat text => "could not convert string to float: " ++ Text.quotedString text
  | .noNumber => "string index out of range"
  | .noCharacter wide =>
    if wide then "Python int too large to convert to C int"
    else "chr() arg not in range(0x110000)"
  | .notBoolean text => Text.quotedString text
  | .notTimestamp => "'NoneType' object has no attribute 'groupdict'"
  | .year n => s!"year {n} is out of range"
  | .month => "month must be in 1..12"
  | .day => "day is out of range for month"
  | .hour => "hour must be in 0..23"
  | .minute => "minute must be in 0..59"
  | .second => "second must be in 0..59"
  | .offset minutes => ValueFault.offsetMessage minutes

/-- Why something could not be done. -/
inductive Failure where
  | general (message : String) (details : Details)
  | settings (fault : SettingsFault)
  | source (path reason : String) (message : Option String)
  | unparsable (path reason : String)
  | unreadableRouter (path reason : String)
  | unreadableTypes (path reason : String)
  | splice (path handler reason : String)
  | discovery (message : String) (details : Details)
  | noDirectory (path : String)
  | noHandlers (path pattern : String)
  /-- A range to replace that ends before it starts, or starts before the file. -/
  | spliceRange (start stop : Int)
  /-- A range to replace that ends at a number which is no offset. -/
  | offsetTooLarge
  | undecodable (fault : Text.Utf8Fault)
  /-- A text to be written that has no bytes. -/
  | unencodable (fault : EncodeFault)
  /-- A setting of a name that does not exist. -/
  | unknownSetting (name : String)
  /-- A layer of settings with a key that is no text. -/
  | keyNotText
  /-- An argument of an operation given once more by name. -/
  | repeatedArgument (operation name : String)
  | value (fault : ValueFault)
  | quotientTooLarge
  | file (fault : FileFault) (path : String)
  | levelName (text : String)

/-- The families of the tool's own failures. -/
inductive Kind where
  | general
  | settings
  | source
  | unparsable
  | unreadableRouter
  | unreadableTypes
  | splice
  | discovery
  | noDirectory
  | noHandlers
  deriving DecidableEq, Repr

/-- The family that a kind belongs to directly. -/
def Kind.family : Kind → Option Kind
  | .general => none
  | .settings | .source | .splice | .discovery => some .general
  | .unparsable | .unreadableRouter | .unreadableTypes => some .source
  | .noDirectory | .noHandlers => some .discovery

/-- A kind and its families, the widest last. -/
def Kind.lineage (k : Kind) : List Kind :=
  match k.family with
  | none => [k]
  | some f =>
    match f.family with
    | none => [k, f]
    | some g => [k, f, g]

namespace Failure

/-- The kind of one of the tool's own failures; none for a fault of a caller or of a value. -/
def kind? : Failure → Option Kind
  | .general .. => some .general
  | .settings .. => some .settings
  | .source .. => some .source
  | .unparsable .. => some .unparsable
  | .unreadableRouter .. => some .unreadableRouter
  | .unreadableTypes .. => some .unreadableTypes
  | .splice .. => some .splice
  | .discovery .. => some .discovery
  | .noDirectory .. => some .noDirectory
  | .noHandlers .. => some .noHandlers
  | _ => none

/-- Whether the failure belongs to the family `k`. -/
def isOf (k : Kind) (f : Failure) : Bool :=
  match f.kind? with
  | some k' => k'.lineage.contains k
  | none => false

/-- The sentence shown to the user. -/
def message : Failure → String
  | .general message _ => message
  | .settings fault => fault.message
  | .source path reason message =>
    match message with
    | some m => if m.isEmpty then s!"{path}: {reason}" else m
    | none => s!"{path}: {reason}"
  | .unparsable path reason => s!"Failed to parse {path}: {reason}"
  | .unreadableRouter path reason => s!"Could not read router file {path}: {reason}"
  | .unreadableTypes path reason => s!"Could not load type source {path}: {reason}"
  | .splice path handler reason => s!"Failed to update comment for {handler} in {path}: {reason}"
  | .discovery message _ => message
  | .noDirectory path => s!"Directory {path} does not exist"
  | .noHandlers path pattern => s!"No handler files found in {path} matching pattern {pattern}"
  | .spliceRange start stop =>
    "invalid splice range [" ++ Value.intString start ++ ", " ++ Value.intString stop ++ ")"
  | .offsetTooLarge => "cannot fit 'int' into an offset-sized integer"
  | .undecodable fault => fault.message
  | .unencodable fault => fault.message
  | .unknownSetting name =>
    "GeneratorConfig.__init__() got an unexpected keyword argument " ++ Text.quotedString name
  | .keyNotText => "keywords must be strings"
  | .repeatedArgument operation name =>
    s!"{operation}() got multiple values for argument " ++ Text.quotedString name
  | .value fault => fault.message
  | .quotientTooLarge => "integer division result too large for a float"
  | .file fault path => fault.message path
  | .levelName text => "Unknown level: " ++ Text.quotedString text

/-- The facts behind the failure. -/
def details : Failure → Details
  | .general _ details => details
  | .settings fault => fault.details
  | .source path reason _ | .unparsable path reason | .unreadableRouter path reason
  | .unreadableTypes path reason => [fact "path" path, fact "reason" reason]
  | .splice path handler reason =>
    [fact "path" path, fact "handler" handler, fact "reason" reason]
  | .discovery _ details => details
  | .noDirectory path => [fact "handler_dir" path]
  | .noHandlers path pattern => [fact "handler_dir" path, fact "pattern" pattern]
  | _ => []

/-- Message and details in one text. -/
def report (f : Failure) : String :=
  if f.details.isEmpty then f.message
  else s!"{f.message} (details: {(Value.map f.details).literal})"

/-- Why it failed, for failures that give a reason. -/
def reason : Failure → String
  | .source _ reason _ | .unparsable _ reason | .unreadableRouter _ reason
  | .unreadableTypes _ reason | .splice _ _ reason => reason
  | f => f.message

end Failure

end RouteDoc
