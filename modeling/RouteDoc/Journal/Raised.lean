/-
Errors attached to an entry of the journal.

An error has a kind and arguments. Its message is its one argument, or all of
them; a key is shown as a literal. An error of the system with a number and a
text has a message of its own form, and many of the numbers have kinds of their
own.
-/
import RouteDoc.Failure

namespace RouteDoc.Journal

inductive RaisedKind where
  | value
  | key
  | system
  | runtime
  deriving DecidableEq

/-- An error with its arguments. -/
structure Raised where
  kind : RaisedKind
  arguments : List Value

namespace Raised

/-- The names of errors of the system by their numbers. -/
def systemNames : List (Int × String) :=
  [(1, "PermissionError"), (2, "FileNotFoundError"), (3, "ProcessLookupError"),
    (4, "InterruptedError"), (10, "ChildProcessError"), (11, "BlockingIOError"),
    (13, "PermissionError"), (17, "FileExistsError"), (20, "NotADirectoryError"),
    (21, "IsADirectoryError"), (32, "BrokenPipeError"), (103, "ConnectionAbortedError"),
    (104, "ConnectionResetError"), (108, "BrokenPipeError"), (110, "TimeoutError"),
    (111, "ConnectionRefusedError"), (114, "BlockingIOError"), (115, "BlockingIOError")]

/-- The number that a value is. -/
def number? : Value → Option Int
  | .int n => some n
  | .bool b => some (if b then 1 else 0)
  | _ => none

/-- The name of an error. -/
def name (r : Raised) : String :=
  match r.kind with
  | .value => "ValueError"
  | .key => "KeyError"
  | .runtime => "RuntimeError"
  | .system =>
    let number := match r.arguments with
      | code :: _ :: rest => if rest.length ≤ 3 then number? code else none
      | _ => none
    match number.bind fun n => systemNames.find? fun e => e.1 == n with
    | some e => e.2
    | none => "OSError"

def isNull : Value → Bool
  | .null => true
  | _ => false

/-- The message of arguments of no special form. -/
def plainMessage : List Value → String
  | [] => ""
  | [v] => v.display
  | vs => (Value.tuple vs).literal

/-- The message of an error of the system: its number and text, and the files it is about. -/
def systemMessage (arguments : List Value) : String :=
  let head (code text : Value) : String := "[Errno " ++ code.display ++ "] " ++ text.display
  match arguments with
  | [code, text] => head code text
  | [code, text, file] | [code, text, file, _] =>
    if isNull file then head code text else head code text ++ ": " ++ file.literal
  | [code, text, file, _, other] =>
    if isNull file then head code text
    else if isNull other then head code text ++ ": " ++ file.literal
    else head code text ++ ": " ++ file.literal ++ " -> " ++ other.literal
  | _ => plainMessage arguments

def message (r : Raised) : String :=
  match r.kind, r.arguments with
  | .key, [v] => v.literal
  | .system, arguments => systemMessage arguments
  | _, arguments => plainMessage arguments

/-- The error on one line. -/
def trace (r : Raised) : String :=
  if r.message.isEmpty then r.name else r.name ++ ": " ++ r.message

end Raised

/-- What an entry says about an error in JSON; none stands for an error asked for while there was
none. -/
def errorFacts : Option Raised → Details
  | some r => [fact "type" r.name, fact "message" r.message, fact "traceback" r.trace]
  | none => [fact "type" "Unknown", fact "message" "", fact "traceback" "NoneType: None"]

/-- What an entry says about an error in text. -/
def errorTrace (r : Option Raised) : Details :=
  (errorFacts r).filter fun e => e.1.same (.str "traceback")

end RouteDoc.Journal
