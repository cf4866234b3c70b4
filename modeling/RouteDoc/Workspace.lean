/-
A tree of files, as a value.

A workspace is a finite set of entries, each a file with its bytes or a
directory, under paths from the root, and a working directory. `locate` follows
a path text component by component the way a file system does: every component
but the last has to be a directory, and `..` is only reached through one. A path
text holds no NUL, and the working directory is a directory of the tree.
-/
import RouteDoc.Failure
import RouteDoc.Workspace.PathText

namespace RouteDoc

/-- The components of a place in the tree, outermost first. -/
abbrev Place := List String

inductive Entry where
  | file (bytes : List UInt8)
  | directory
  deriving DecidableEq

structure Workspace where
  entries : List (Place × Entry)
  cwd : Place

namespace Workspace

/-- A place as an absolute path. -/
def placeText (p : Place) : String := "/" ++ Text.joinStrings "/" p

def cwdText (w : Workspace) : String := placeText w.cwd

/-- The entry at a place; the root is a directory. -/
def entryAt (w : Workspace) (p : Place) : Option Entry :=
  if p.isEmpty then some .directory else (w.entries.find? fun e => e.1 == p).map (·.2)

/-- Follows components from a place. -/
def follow (w : Workspace) : Place → List String → Except FileFault Place
  | p, [] => .ok p
  | p, c :: rest =>
    match w.entryAt p with
    | none => .error .missing
    | some (.file _) => .error .notDirectory
    | some .directory =>
      if c == "" || c == "." then w.follow p rest
      else if c == ".." then w.follow p.dropLast rest
      else w.follow (p ++ [c]) rest

/-- The place that a path text names; there need not be an entry at it. -/
def locate (w : Workspace) (path : String) : Except FileFault Place :=
  if path.isEmpty then .error .missing
  else w.follow (if PathText.isAbsolute path then [] else w.cwd) (PathText.components path)

/-- The bytes of the file at a path. -/
def read (w : Workspace) (path : String) : Except FileFault (List UInt8) :=
  match w.locate path with
  | .error fault => .error fault
  | .ok p =>
    match w.entryAt p with
    | none => .error .missing
    | some .directory => .error .isDirectory
    | some (.file bytes) => .ok bytes

/-- Whether there is anything at a path. -/
def exists? (w : Workspace) (path : String) : Bool :=
  match w.locate path with
  | .error _ => false
  | .ok p => (w.entryAt p).isSome

def isDirectory (w : Workspace) (path : String) : Bool :=
  match w.locate path with
  | .error _ => false
  | .ok p => w.entryAt p == some .directory

def isFile (w : Workspace) (path : String) : Bool :=
  match w.locate path with
  | .error _ => false
  | .ok p =>
    match w.entryAt p with
    | some (.file _) => true
    | _ => false

/-- The workspace with an entry put at a place, in place of one that was there. -/
def put (w : Workspace) (p : Place) (e : Entry) : Workspace :=
  if w.entries.any fun x => x.1 == p then
    { w with entries := w.entries.map fun x => if x.1 == p then (p, e) else x }
  else { w with entries := w.entries ++ [(p, e)] }

/-- Directories at a place and at all places above it, where nothing is yet. -/
def makeDirectories (w : Workspace) (p : Place) : Workspace :=
  (List.range p.length).foldl (fun w n =>
    let q := p.take (n + 1)
    if (w.entryAt q).isSome then w else w.put q .directory) w

/-- A file with its directories. -/
def write (w : Workspace) (p : Place) (bytes : List UInt8) : Workspace :=
  (w.makeDirectories p.dropLast).put p (.file bytes)

/-- The workspace without the entry at a place and everything below it. -/
def remove (w : Workspace) (p : Place) : Workspace :=
  { w with entries := w.entries.filter fun x => !p.isPrefixOf x.1 }

/-- The workspace without the entry at a place. -/
def unlink (w : Workspace) (p : Place) : Workspace :=
  { w with entries := w.entries.filter fun x => x.1 != p }

/-- The names of the entries of a directory. -/
def names (w : Workspace) (p : Place) : List (String × Entry) :=
  w.entries.filterMap fun x =>
    match x.1.getLast? with
    | some name => if x.1.dropLast == p then some (name, x.2) else none
    | none => none

/-- Everything below a directory, each with its components from there. -/
def below (w : Workspace) (p : Place) : List (Place × Entry) :=
  w.entries.filterMap fun x =>
    if p.isPrefixOf x.1 && decide (p.length < x.1.length) then some (x.1.drop p.length, x.2)
    else none

/-- The files of the workspace. -/
def files (w : Workspace) : List (Place × List UInt8) :=
  w.entries.filterMap fun x =>
    match x.2 with
    | .file bytes => some (x.1, bytes)
    | .directory => none

end Workspace

end RouteDoc
