/-
A session: the files, what has been read of them, and the notes so far.

Sources are kept by absolute path once they could be parsed; a source that could
not be is looked at again the next time. Sources are never dropped, so a file
that changes afterwards is not seen.
-/
import RouteDoc.Go.Source
import RouteDoc.Note
import RouteDoc.RequestType

namespace RouteDoc

structure Session where
  workspace : Workspace
  /-- Parsed sources by absolute path, in order of their first reading. -/
  sources : List (String × Go.Source)
  /-- Request types by the name they were looked up with, in order of the first lookup. -/
  requestTypes : List (String × RequestType)
  notes : List Note

namespace Session

/-- A session that has read nothing. -/
def start (w : Workspace) : Session := ⟨w, [], [], []⟩

/-- The session with one more note. -/
def note (s : Session) (n : Note) : Session := { s with notes := s.notes ++ [n] }

/-- The path under which a source is kept. -/
def keyOf (s : Session) (path : String) : String := PathText.absolute s.workspace.cwdText path

/-- The source that is kept for a path. -/
def kept? (s : Session) (path : String) : Option Go.Source :=
  (s.sources.find? fun e => e.1 == s.keyOf path).map (·.2)

/-- Whether a source is kept for a path. -/
def keeps (s : Session) (path : String) : Bool := (s.kept? path).isSome

/-- The source at a path, read and parsed unless it is kept; `file` is the handler file on whose
behalf it is asked for. -/
def source (file : Option String) (path : String) (s : Session) :
    Except Failure Go.Source × Session :=
  match s.kept? path with
  | some found => (.ok found, s)
  | none =>
    let key := s.keyOf path
    match Go.Source.load s.workspace key with
    | .error failure => (.error failure, s)
    | .ok found =>
      let s := { s with sources := s.sources ++ [(key, found)] }
      (.ok found,
        s.note ⟨.debug, loggerName "syntax", "Parsed Go source", [("path", .str key)], file⟩)

end Session

end RouteDoc
