/-
The journal: who may write to it, where it goes, and in which form.

Writers have names with dots in them, and a name stands below the names it
extends. A writer's level is its own, or else that of the nearest name above it
that has one. What passes it goes to every sink whose level it reaches: the
console, and perhaps a file. A file that would become too long is put aside
first, under numbered names.
-/
import RouteDoc.Integer
import RouteDoc.Journal.Entry
import RouteDoc.Journal.Raised
import RouteDoc.Text.Casing
import RouteDoc.Workspace

namespace RouteDoc

namespace Journal

/-! ## Levels -/

/-- The numbers of levels by name. -/
def levelNumbers : List (String × Int) :=
  [("CRITICAL", 50), ("FATAL", 50), ("ERROR", 40), ("WARNING", 30), ("WARN", 30), ("INFO", 20),
    ("DEBUG", 10), ("NOTSET", 0)]

/-- The name of a level. -/
def levelText (n : Int) : String :=
  if n == 50 then "CRITICAL"
  else if n == 40 then "ERROR"
  else if n == 30 then "WARNING"
  else if n == 20 then "INFO"
  else if n == 10 then "DEBUG"
  else if n == 0 then "NOTSET"
  else "Level " ++ Value.intString n

/-- The level that a name asks for: any name that is none asks for information. One name stands for
a form of lines and cannot be a level. -/
def levelOf (name : String) : Except Failure Int :=
  match Text.asciiCapitals? name with
  | none => .ok 20
  | some capitals =>
    if capitals == "BASIC_FORMAT" then
      .error (.levelName "%(levelname)s:%(name)s:%(message)s")
    else .ok (((levelNumbers.find? fun e => e.1 == capitals).map (·.2)).getD 20)

/-! ## What is set from outside -/

/-- What the environment says about the journal. -/
structure Preferences where
  level : String := "INFO"
  json : Bool := false
  file : String := ""
  maxBytes : Int := 5242880
  backups : Int := 3

/-- The preferences that variables give. -/
def Preferences.ofVariables (env : List (String × String)) : Except ValueFault Preferences := do
  let get (name : String) : Option String :=
    (env.find? fun e => e.1 == "SWAGCOMMENT_LOG_" ++ name).map (·.2)
  let integer (name : String) (default_ : Int) : Except ValueFault Int :=
    match get name with
    | some text => Integer.read text
    | none => .ok default_
  let maxBytes ← integer "MAX_BYTES" 5242880
  let backups ← integer "BACKUP_COUNT" 3
  return ⟨(get "LEVEL").getD "INFO", get "FORMAT" == some "json", (get "FILE").getD "", maxBytes,
    backups⟩

/-! ## Sinks -/

inductive Target where
  | console
  | file (path : String)

/-- Where entries go, in which form, and from which level on. -/
structure Sink where
  target : Target
  json : Bool
  level : Int

end Journal

/-- The journal with the files it writes to and what it has put on the console. -/
structure Journal where
  preferences : Journal.Preferences
  moment : Journal.Moment
  workspace : Workspace
  console : String
  rootLevel : Int
  levels : List (String × Int)
  sinks : List Journal.Sink
  /-- The fields of the contexts entered, innermost first; each holds those around it. -/
  contexts : List Fields

namespace Journal

/-- A journal that nothing has been set for: it shows nothing. -/
def start (p : Preferences) (t : Moment) (w : Workspace) : Journal :=
  ⟨p, t, w, "", 30, [], [], []⟩

/-- What is written about something that happened. -/
structure Message where
  level : Int
  logger : String
  text : String
  fields : Fields
  sourceFile : Value
  /-- Whether an error belongs to it, and which one. -/
  error : Option (Option Raised)

/-- The part of a name behind its last dot. -/
def shortName (name : String) : String :=
  String.ofList ((Text.splitAt '.' name.toList).getLast?.getD [])

/-- A message as an entry. JSON has universal time and the full name of the writer. -/
def Message.entry (m : Message) (t : Moment) (json : Bool) : Entry where
  timestamp := if json then t.universal.iso else t.here.plain
  level := levelText m.level
  logger := if json then m.logger else shortName m.logger
  message := m.text
  fields := m.fields
  sourceFile := m.sourceFile
  error := match m.error with
    | none => []
    | some r => if json then errorFacts r else errorTrace r

/-- A message as a line. -/
def Message.line (m : Message) (t : Moment) (json : Bool) : String :=
  let e := m.entry t json
  if json then e.json else e.text

/-! ## Files -/

/-- The place of a path; paths of sinks are absolute. -/
def placeOf (path : String) : Place := (PathText.components path).filter fun c => c != ""

/-- Renames a file to one whose place may be taken. -/
def moveFile (w : Workspace) (source target : String) : Workspace :=
  match w.entryAt (placeOf source) with
  | some (.file bytes) => (w.remove (placeOf source)).put (placeOf target) (.file bytes)
  | _ => w

/-- Moves numbered files up by one, the highest first. -/
def shiftBackups (path : String) : Nat → Workspace → Workspace
  | 0, w => w
  | n + 1, w =>
    shiftBackups path n (moveFile w (path ++ "." ++ toString (n + 1)) (path ++ "." ++ toString (n + 2)))

/-- Puts a file aside and starts it anew; without backups it is left alone. -/
def rotate (w : Workspace) (path : String) (backups : Int) : Workspace :=
  if backups ≤ 0 then w
  else
    let w := shiftBackups path (backups.toNat - 1) w
    (moveFile w path (path ++ ".1")).put (placeOf path) (.file [])

/-- The bytes of a file; none where there is no file. -/
def bytesAt (w : Workspace) (path : String) : List UInt8 :=
  match w.entryAt (placeOf path) with
  | some (.file bytes) => bytes
  | _ => []

/-- Whether a line would make a file too long: its length counts in characters. -/
def overflows (maxBytes : Int) (size : Nat) (line : String) : Bool :=
  decide (0 < maxBytes) && decide (maxBytes ≤ (size + line.length : Nat))

/-- Appends a line to a file, which is put aside first where it would become too long. -/
def appendLine (p : Preferences) (w : Workspace) (path line : String) : Workspace :=
  let w :=
    if overflows p.maxBytes (bytesAt w path).length line then rotate w path p.backups else w
  w.put (placeOf path) (.file (bytesAt w path ++ Text.utf8 line))

/-- Opens a file to append to, which is created where it does not exist. -/
def openFile (w : Workspace) (path : String) : Except Failure Workspace :=
  match w.locate path with
  | .error fault => .error (.file fault path)
  | .ok place =>
    match w.entryAt place with
    | some .directory => .error (.file .isDirectory path)
    | some (.file _) => .ok w
    | none =>
      match w.entryAt place.dropLast with
      | some .directory => .ok (w.put place (.file []))
      | some (.file _) => .error (.file .notDirectory path)
      | none => .error (.file .missing path)

/-! ## Writers -/

/-- The name of the writer above all others. -/
def rootName : String := "root"

def isRoot (name : String) : Bool := name.isEmpty || name == rootName

/-- The parts of a name in front of its dots, longest first. -/
def above (name : String) : List String :=
  let pieces := Text.splitAt '.' name.toList
  ((List.range (pieces.length - 1)).map fun n =>
    String.ofList (Text.joinWith ['.'] (pieces.take (n + 1)))).reverse

/-- The level of a writer: its own, or that of the nearest one above it that has one. -/
def effectiveLevel (j : Journal) (name : String) : Int :=
  let own := (name :: above name).filterMap fun n =>
    (j.levels.find? fun e => e.1 == n && e.2 != 0).map (·.2)
  if isRoot name then j.rootLevel else (own.head?).getD j.rootLevel

/-- The level that has been set for a writer; zero where none has been. -/
def ownLevel (j : Journal) (name : String) : Int :=
  if isRoot name then j.rootLevel
  else ((j.levels.find? fun e => e.1 == name).map (·.2)).getD 0

/-- Sets the level of a writer. -/
def setLevel (j : Journal) (name : String) (level : Int) : Journal :=
  if isRoot name then { j with rootLevel := level }
  else { j with levels := (name, level) :: j.levels.filter fun e => e.1 != name }

/-- Writes a message to a sink. -/
def writeTo (m : Message) (j : Journal) (s : Sink) : Journal :=
  if m.level < s.level then j
  else
    let line := m.line j.moment s.json ++ "\n"
    match s.target with
    | .console => { j with console := j.console ++ line }
    | .file path => { j with workspace := appendLine j.preferences j.workspace path line }

/-- Writes a message, where its writer may. -/
def write (j : Journal) (m : Message) : Journal :=
  if m.level < j.effectiveLevel m.logger then j else j.sinks.foldl (writeTo m) j

/-! ## Setting up -/

/-- The package's own writers. -/
def setPackageLevel (j : Journal) (level : Int) : Journal := j.setLevel packageName level

/-- Sets the level and the form of the journal, and a file it goes to. What is not given comes from
the preferences. A file that cannot be opened leaves the console set up. -/
def configure (j : Journal) (level : Option String) (json : Option Bool) (file : Option String) :
    Except Failure Unit × Journal :=
  let name := match level with
    | some l => if l.isEmpty then j.preferences.level else l
    | none => j.preferences.level
  match levelOf name with
  | .error failure => (.error failure, j)
  | .ok n =>
    let asJson := json.getD j.preferences.json
    let path := match file with
      | some f => if f.isEmpty then j.preferences.file else f
      | none => j.preferences.file
    let j : Journal := { j with rootLevel := n, sinks := [⟨.console, asJson, n⟩] }
    if path.isEmpty then (.ok (), j.setPackageLevel n)
    else
      let absolute := PathText.absolute j.workspace.cwdText path
      match openFile j.workspace absolute with
      | .error failure => (.error failure, j)
      | .ok w =>
        let j : Journal := { j with
          workspace := w
          sinks := j.sinks ++ [⟨.file absolute, asJson, n⟩] }
        (.ok (), j.setPackageLevel n)

/-! ## Contexts -/

/-- The fields of the innermost context. -/
def context (j : Journal) : Fields := j.contexts.head?.getD []

def insertField (fields : Fields) (f : String × Value) : Fields :=
  if fields.any fun e => e.1 == f.1 then fields.map fun e => if e.1 == f.1 then f else e
  else fields ++ [f]

/-- Enters a context with more fields. The name `self` is taken. -/
def enter (j : Journal) (fields : Fields) : Except Failure Unit × Journal :=
  if fields.any fun e => e.1 == "self" then
    (.error (.repeatedArgument "LogContext.__init__" "self"), j)
  else (.ok (), { j with contexts := fields.foldl insertField j.context :: j.contexts })

/-- Leaves the innermost context. -/
def leave (j : Journal) : Journal := { j with contexts := j.contexts.drop 1 }

/-- The file that a context says an entry concerns; `other` where it says none. -/
def sourceFileIn (fields : Fields) (other : Value) : Value :=
  match (fields.find? fun e => e.1 == "source_file").map (·.2) with
  | some v => if v.holds then v else other
  | none => other

/-- The name under which a writer appears. -/
def shownName (name : String) : String := if name.isEmpty then rootName else name

/-- What an operation of a writer is called. -/
def operationName (operation : String) : String := "StructuredLogger." ++ operation

/-- The names that fields cannot have, because the operation has arguments of that name. -/
def takenName (operation : String) (fields : Fields) : Option Failure :=
  match fields.find? fun e => e.1 == "self" || e.1 == "message" with
  | some e => some (.repeatedArgument (operationName operation) e.1)
  | none =>
    if fields.any fun e => e.1 == "level" then
      some (.repeatedArgument (operationName "_log") "level")
    else none

/-- The field that asks for the current error. It is not written. -/
def errorField : String := "exc_info"

/-- Whether fields ask for the current error. -/
def asksForError (fields : Fields) : Bool :=
  fields.any fun e => e.1 == errorField && e.2.holds

/-- Writes a message of a level with fields, in the innermost context. An error comes with the
message, or the fields ask for one while there is none. -/
def log (j : Journal) (level : Level) (operation logger text : String) (fields : Fields)
    (error : Option (Option Raised)) : Except Failure Unit × Journal :=
  match takenName operation fields with
  | some failure => (.error failure, j)
  | none =>
    let asked := if asksForError fields then some none else none
    (.ok (), j.write ⟨level.number, shownName logger, text,
      fields.filter fun e => e.1 != errorField, sourceFileIn j.context .null,
      error.orElse fun _ => asked⟩)

/-- Writes a note. -/
def writeNote (j : Journal) (n : Note) : Journal :=
  let file : Value := match n.file with
    | some f => .str f
    | none => .null
  j.write ⟨n.level.number, n.logger, n.message, n.fields, file, none⟩

end Journal

end RouteDoc
