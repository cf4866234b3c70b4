/-
Path patterns: the places of a workspace that a pattern stands for.

A pattern is a path whose components are name patterns. A component `**` stands
for any number of directories, none included, and as the last component for
everything below. A component pattern does not stand for a name that starts with
a dot, unless it starts with one itself, and `**` passes by such names. The
paths found are written as the pattern was: text without magic is kept.
-/
import RouteDoc.Pattern
import RouteDoc.Workspace

namespace RouteDoc.Glob

/-- Whether a text has a character with a meaning in patterns. -/
def hasMagic (s : String) : Bool := s.toList.any fun c => c == '*' || c == '?' || c == '['

def isHidden (name : String) : Bool := name.startsWith "."

/-- Two paths one below the other; an empty one leaves the other as it is. -/
def under (directory name : String) : String :=
  if directory.isEmpty then name
  else if name.isEmpty then directory
  else PathText.join directory name

/-- The place of a directory to search; no text is the working directory. -/
def directoryPlace (w : Workspace) (directory : String) : Option Place :=
  let path := if directory.isEmpty then "." else directory
  match w.locate path with
  | .error _ => none
  | .ok p => if w.entryAt p == some .directory then some p else none

/-- The names in a directory, only those of directories where `onlyDirectories`. -/
def namesIn (w : Workspace) (directory : String) (onlyDirectories : Bool) : List String :=
  match directoryPlace w directory with
  | none => []
  | some p =>
    (w.names p).filterMap fun x =>
      if !onlyDirectories || x.2 == .directory then some x.1 else none

/-- The names in a directory that one component of a pattern stands for. -/
def matchingNames (w : Workspace) (directory component : String) (onlyDirectories : Bool) :
    List String :=
  (namesIn w directory onlyDirectories).filter fun name =>
    (isHidden component || !isHidden name) && Pattern.accepts component name

/-- Everything below a directory that no hidden name leads to, and the directory itself. -/
def everythingBelow (w : Workspace) (directory : String) (onlyDirectories : Bool) :
    List String :=
  match directoryPlace w directory with
  | none => []
  | some p =>
    "" :: (w.below p).filterMap fun x =>
      if x.1.any isHidden || (onlyDirectories && x.2 != .directory) then none
      else some (Text.joinStrings "/" x.1)

/-- A component without magic, where there is such an entry; no text asks for a directory. -/
def exactName (w : Workspace) (directory component : String) : List String :=
  if component.isEmpty then
    if w.isDirectory directory then [component] else []
  else if w.exists? (under directory component) then [component] else []

/-- The names in `directory` that the last component of a pattern stands for. -/
def lastComponent (w : Workspace) (directory component : String) (onlyDirectories : Bool) :
    List String :=
  if component == "**" then everythingBelow w directory onlyDirectories
  else if hasMagic component then matchingNames w directory component onlyDirectories
  else exactName w directory component

/-- The paths that a pattern stands for, with fuel for its components. -/
def expandFrom (w : Workspace) : Nat → String → Bool → List String
  | 0, _, _ => []
  | fuel + 1, pattern, onlyDirectories =>
    let directory := PathText.parent pattern
    let component := PathText.base pattern
    if !hasMagic pattern then
      if component.isEmpty then (if w.isDirectory directory then [pattern] else [])
      else if w.exists? pattern then [pattern] else []
    else if directory.isEmpty then lastComponent w "" component onlyDirectories
    else
      let directories :=
        if directory != pattern && hasMagic directory then expandFrom w fuel directory true
        else [directory]
      directories.flatMap fun d =>
        (lastComponent w d component onlyDirectories).map fun name => PathText.join d name

/-- The paths that a pattern stands for, in no particular order. -/
def expand (w : Workspace) (pattern : String) : List String :=
  let found := expandFrom w (pattern.length + 1) pattern false
  if pattern.isEmpty || pattern.startsWith "**" then
    match found with
    | "" :: rest => rest
    | _ => found
  else found

/-- The paths that a pattern stands for, in order. -/
def expandSorted (w : Workspace) (pattern : String) : List String :=
  Text.sortStrings (expand w pattern)

end RouteDoc.Glob
