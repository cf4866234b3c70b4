/-
What is asked for on the command line.

Arguments are first told apart: switches, values, and what is neither. A long
name may be cut short as long as only one switch starts that way, and a value
may be joined to it with an equals sign. Then they are read from left to right;
the first one that asks for help or the version, or that cannot be right, ends
the reading. What no switch has taken is reported at the end.
-/
import RouteDoc.CommandLine.Switch
import RouteDoc.Integer

namespace RouteDoc.CommandLine

/-- Why arguments are refused. -/
inductive Refusal where
  /-- A shortened name that several switches start with. -/
  | ambiguous (text : String) (candidates : List Switch)
  | missingValue (s : Switch)
  /-- A value joined to a switch that takes none. -/
  | ignoredValue (s : Switch) (value : String)
  | notInteger (s : Switch) (value : String)
  | notChoice (s : Switch) (value : String) (choices : List String)
  /-- A switch that another one excludes. -/
  | excluded (s other : Switch)
  | unrecognized (texts : List String)

def Refusal.message : Refusal → String
  | .ambiguous text candidates =>
    s!"ambiguous option: {text} could match " ++
      Text.joinStrings ", " (candidates.map Switch.long)
  | .missingValue s => s!"argument {s.label}: expected one argument"
  | .ignoredValue s value =>
    s!"argument {s.label}: ignored explicit argument " ++ Text.quotedString value
  | .notInteger s value => s!"argument {s.label}: invalid int value: " ++ Text.quotedString value
  | .notChoice s value choices =>
    s!"argument {s.label}: invalid choice: " ++ Text.quotedString value ++ " (choose from " ++
      Text.joinStrings ", " (choices.map Text.quotedString) ++ ")"
  | .excluded s other => s!"argument {s.label}: not allowed with argument {other.label}"
  | .unrecognized texts => "unrecognized arguments: " ++ Text.joinStrings " " texts

/-! ## Telling arguments apart -/

/-- What an argument is. -/
inductive Word where
  /-- A switch, with the value joined to it. -/
  | switch (s : Switch) (joined : Option String)
  /-- Something that looks like a switch. -/
  | unknown
  /-- Something that a switch can take as its value. -/
  | plain
  /-- The mark after which nothing is a switch. -/
  | divider

/-- A text without the line break at its end. -/
def withoutBreak (s : List Char) : List Char :=
  if s.getLast? == some '\n' then s.dropLast else s

def isDigit (c : Char) : Bool := (Text.digitValue? c).isSome

/-- Whether a text is a number once the minus sign in front of it is gone: digits, or a point with
digits behind it. -/
def isNumeral (s : List Char) : Bool :=
  let s := withoutBreak s
  match s.dropWhile isDigit with
  | [] => !s.isEmpty
  | '.' :: fraction => !fraction.isEmpty && fraction.all isDigit
  | _ => false

/-- The text at an equals sign, in front of it and behind it. -/
def splitValue (s : List Char) : String × Option String :=
  let name := s.takeWhile fun c => c != '='
  match s.drop name.length with
  | [] => (String.ofList name, none)
  | _ :: value => (String.ofList name, some (String.ofList value))

/-- What follows the short name of help in the same argument, where it cannot be ignored: a value,
or a dash. The short name may be repeated. -/
def behindShort : List Char → Option String
  | [] => none
  | '=' :: value => some (String.ofList value)
  | '-' :: rest => some (String.ofList ('-' :: rest))
  | 'h' :: rest => behindShort rest
  | _ => none

/-- An argument that is no switch. -/
def otherWord (behindDash : List Char) : Word :=
  if isNumeral behindDash || behindDash.contains ' ' then .plain else .unknown

/-- What an argument is. -/
def wordOf (text : String) : Except Refusal Word :=
  match text.toList with
  | '-' :: '-' :: rest =>
    let (name, value) := splitValue ('-' :: '-' :: rest)
    match Switch.ofLong? name with
    | some s => .ok (.switch s value)
    | none =>
      match Switch.startingWith name with
      | [] => .ok (otherWord ('-' :: rest))
      | [s] => .ok (.switch s value)
      | candidates => .error (.ambiguous text candidates)
  | '-' :: 'h' :: rest => .ok (.switch .help (behindShort rest))
  | ['-'] => .ok .plain
  | '-' :: rest => .ok (otherWord rest)
  | _ => .ok .plain

/-- What arguments are. Behind the divider nothing is a switch. -/
def wordsOfArguments : List String → Except Refusal (List (String × Word))
  | [] => .ok []
  | text :: rest =>
    if text == "--" then .ok ((text, .divider) :: rest.map fun t => (t, .plain))
    else do
      let word ← wordOf text
      let more ← wordsOfArguments rest
      return (text, word) :: more

/-! ## Reading -/

/-- What is asked for: settings, a settings file, and the form of the journal. -/
structure Request where
  /-- Settings in the order given; the last value of a setting counts. -/
  settings : Layer := []
  config : Option String := none
  json : Option Bool := none
  /-- The switch that says how much is shown, where there was one. -/
  volume : Option Switch := none

namespace Request

def set (r : Request) (s : Setting) (v : Value) : Request :=
  { r with settings := r.settings ++ [(s.key, v)] }

/-- Takes the value of a switch. -/
def takeValue (r : Request) (s : Switch) (value : String) : Except Refusal Request :=
  match s with
  | .concurrency =>
    match Integer.read value with
    | .ok n => .ok (r.set .concurrency (.int n))
    | .error _ => .error (.notInteger s value)
  | .logFormat =>
    if Switch.logFormats.contains value then .ok { r with json := some (value == "json") }
    else .error (.notChoice s value Switch.logFormats)
  | .config => .ok { r with config := some value }
  | s =>
    match s.setting? with
    | some setting => .ok (r.set setting (.str value))
    | none => .ok r

/-- Takes a switch that says how much is shown; it excludes the other one. -/
def takeVolume (r : Request) (s other : Switch) (verbose : Bool) : Except Refusal Request :=
  if r.volume == some other then .error (.excluded s other)
  else .ok ({ r with volume := some s }.set .verbose (.bool verbose))

/-- Takes a switch without a value. -/
def takeFlag (r : Request) (s : Switch) : Except Refusal Request :=
  match s with
  | .verbose => r.takeVolume .verbose .silent true
  | .silent => r.takeVolume .silent .verbose false
  | .dryRun => .ok (r.set .dryRun (.bool true))
  | _ => .ok r

end Request

/-- How the reading of arguments ends. -/
inductive Reading where
  | run (r : Request)
  | help
  | version
  | refused (why : Refusal)

/-- Reads arguments from left to right; `left` are those that no switch has taken. -/
def readWords : List (String × Word) → Request → List String → Reading
  | [], r, left => if left.isEmpty then .run r else .refused (.unrecognized left)
  | (_, .switch s joined) :: rest, r, left =>
    if s.takesValue then
      match joined, rest with
      | some value, rest =>
        match r.takeValue s value with
        | .ok r => readWords rest r left
        | .error why => .refused why
      | none, (value, .plain) :: rest =>
        match r.takeValue s value with
        | .ok r => readWords rest r left
        | .error why => .refused why
      | none, _ => .refused (.missingValue s)
    else
      match joined, s with
      | some value, s => .refused (.ignoredValue s value)
      | none, .help => .help
      | none, .version => .version
      | none, s =>
        match r.takeFlag s with
        | .ok r => readWords rest r left
        | .error why => .refused why
  | (text, _) :: rest, r, left => readWords rest r (left ++ [text])

/-- Reads the arguments of the command line. -/
def read (arguments : List String) : Reading :=
  match wordsOfArguments arguments with
  | .error why => .refused why
  | .ok words => readWords words {} []

end RouteDoc.CommandLine
