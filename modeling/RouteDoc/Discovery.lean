/-
Discovery: the handler files of a directory.

Every file below the directory counts, at any depth and in hidden directories
too, when its name is one that the pattern stands for. Paths are written as the
directory was, with the components below it, and listed in order.
-/
import RouteDoc.Pattern
import RouteDoc.Workspace

namespace RouteDoc.Discovery

/-- The path of something below a directory. -/
def pathBelow (dir : String) (components : Place) : String :=
  components.foldl PathText.join dir

/-- Whether an entry is a file with a name that a pattern stands for. -/
def matchesFile (pattern : String) (x : Place × Entry) : Bool :=
  match x.2, x.1.getLast? with
  | .file _, some name => Pattern.accepts pattern name
  | _, _ => false

/-- The handler files below a directory. -/
def handlerFiles (w : Workspace) (dir pattern : String) : Except Failure (List String) :=
  match w.locate dir with
  | .error _ => .error (.noDirectory dir)
  | .ok place =>
    if w.entryAt place == some .directory then
      .ok (Text.sortStrings (((w.below place).filter (matchesFile pattern)).map fun x =>
        pathBelow dir x.1))
    else .error (.noDirectory dir)

end RouteDoc.Discovery
