/-
Looking up a request type by name.

The files that may declare it are those that the configured patterns stand for:
pattern by pattern, the paths of one pattern in order, each path once. The first
structure of the name counts. Files that cannot be loaded are passed over. A
name that has been looked up keeps its answer.
-/
import RouteDoc.Session
import RouteDoc.Workspace.Glob

namespace RouteDoc

/-- A list without the elements that occurred before. -/
def dropRepeated (seen : List String) : List String → List String
  | [] => []
  | x :: rest =>
    if seen.contains x then dropRepeated seen rest else x :: dropRepeated (x :: seen) rest

/-- The files that patterns stand for, each once. -/
def typeFiles (w : Workspace) (patterns : List String) : List String :=
  dropRepeated [] (patterns.flatMap (Glob.expandSorted w))

/-- The name of a type behind its package, where there is exactly one dot. -/
def typeNameOf (qualified : String) : Option String :=
  match Text.splitAt '.' qualified.toList with
  | [_, name] => some (String.ofList name)
  | _ => none

namespace Session

/-- The first structure of a name in files, taken in order. -/
def searchFiles (file : Option String) (name : String) :
    List String → Session → Option RequestType × Session
  | [], s => (none, s)
  | path :: rest, s =>
    match s.source file path with
    | (.error failure, s) =>
      searchFiles file name rest (s.note
        ⟨.warning, loggerName "reflector", "Skipping type source",
          [("path", .str path), ("error", .str failure.reason)], file⟩)
    | (.ok found, s) =>
      match RequestType.inTypes? name found.types with
      | some type => (some type, s)
      | none => searchFiles file name rest s

/-- What the files say about a name with its package; nothing where no structure is found. -/
def search (patterns : List String) (file : Option String) (qualified : String) (s : Session) :
    RequestType × Session :=
  match typeNameOf qualified with
  | none => ([], s)
  | some name =>
    match s.searchFiles file name (typeFiles s.workspace patterns) with
    | (some type, s) => (type, s)
    | (none, s) =>
      ([], s.note ⟨.debug, loggerName "reflector", "Request type not found",
        [("type", .str qualified)], file⟩)

/-- The request type of a name, as it was when the name was first looked up. -/
def requestType (patterns : List String) (file : Option String) (qualified : String)
    (s : Session) : RequestType × Session :=
  match s.requestTypes.find? fun e => e.1 == qualified with
  | some e => (e.2, s)
  | none =>
    let (type, s) := s.search patterns file qualified
    (type, { s with requestTypes := s.requestTypes ++ [(qualified, type)] })

/-- The names that have been looked up, in order. -/
def requestNames (s : Session) : List String := s.requestTypes.map (·.1)

end Session

end RouteDoc
