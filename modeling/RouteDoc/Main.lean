/-
The tool at work on the disk.

The parts of the disk that a run can see are taken into a workspace: the
settings files, and then what the settings name. The run is the function
`CommandLine.run` of it. What the run has changed is written back.
-/
import RouteDoc.CommandLine
import RouteDoc.Workspace.Glob
import Std.Time

namespace RouteDoc.Disk

/-! ## Reading the disk -/

/-- The bytes of a file; none where it cannot be read. -/
def bytesOf? (path : String) : IO (Option (List UInt8)) := do
  try
    let bytes ← IO.FS.readBinFile path
    return some bytes.toList
  catch _ => return none

/-- The names in a directory; none where it is no directory. -/
def namesOf? (path : String) : IO (Option (List String)) := do
  try
    let directory ← IO.FS.realPath path
    let entries ← directory.readDir
    return some (entries.toList.map fun e => e.fileName)
  catch _ => return none

/-- How deep directories are looked into. -/
def depth : Nat := 64

/-- Takes what is at an absolute path into a workspace, a directory with everything below it. -/
def take : Nat → Workspace → String → IO Workspace
  | 0, w, _ => return w
  | n + 1, w, path => do
    let place := Journal.placeOf path
    match ← namesOf? path with
    | some names =>
      names.foldlM (fun w name => take n w (PathText.join path name)) (w.makeDirectories place)
    | none =>
      match ← bytesOf? path with
      | some bytes => return w.write place bytes
      | none =>
        let parent := PathText.parent path
        if (← namesOf? parent).isSome then return w.makeDirectories (Journal.placeOf parent)
        else return w

/-- Takes what is at each of some paths into a workspace. -/
def takeAll (w : Workspace) (paths : List String) : IO Workspace :=
  paths.foldlM (fun w path => take depth w (PathText.absolute w.cwdText path)) w

/-- The part of a glob in front of its first component with a wildcard. -/
def fixedPart (glob : String) : String :=
  let fixed := (PathText.components glob).takeWhile fun c => !Glob.hasMagic c
  Text.joinStrings "/" fixed

/-! ## What a run can see -/

/-- The settings files that a run may look at. -/
def settingsFiles (w : Workspace) (arguments : List String) : List String :=
  let asked := match CommandLine.read arguments with
    | .run r => r.config.toList
    | _ => []
  asked ++ (Settings.upward w.cwd.reverse).map fun p =>
    Workspace.placeText (p ++ [Settings.fileName])

/-- The files and directories that settings name. -/
def namedBy (s : Settings) : List String :=
  [s.handlerDir, s.routerFile] ++ s.typesPaths.map fixedPart

/-- The file that the journal goes to, and those it may be put aside as. -/
def journalFiles (p : Journal.Preferences) : List String :=
  if p.file.isEmpty then []
  else p.file :: (List.range p.backups.toNat).map fun n => p.file ++ "." ++ toString (n + 1)

/-- The values of variables that are set. -/
def environment (names : List String) : IO Settings.Environment := do
  let values ← names.mapM fun name => do return (name, ← IO.getEnv name)
  return values.filterMap fun e => e.2.map fun v => (e.1, v)

/-- The variables that say something about the journal. -/
def journalVariables : List String :=
  ["LEVEL", "FORMAT", "FILE", "MAX_BYTES", "BACKUP_COUNT"].map ("SWAGCOMMENT_LOG_" ++ ·)

/-- The number of processors, where the system tells it. -/
def processors : IO (Option Int) := do
  match ← bytesOf? "/proc/cpuinfo" with
  | none => return none
  | some bytes =>
    match Text.decode bytes with
    | .error _ => return none
    | .ok chars =>
      let lines := Text.splitAt '\n' chars
      let count := (lines.filter fun l => "processor".toList.isPrefixOf l).length
      return if count == 0 then none else some count

/-! ## Time -/

def clockOf (t : Std.Time.PlainDateTime) : Journal.Clock :=
  ⟨t.year.toNat, t.month.toInt.toNat, t.day.toInt.toNat, t.hour.toInt.toNat,
    t.minute.toInt.toNat, t.second.toInt.toNat, t.nanosecond.toInt.toNat / 1000⟩

def now : IO Journal.Moment := do
  let stamp ← Std.Time.Timestamp.now
  let universal := (Std.Time.DateTime.ofTimestamp stamp Std.Time.TimeZone.ZoneRules.UTC)
  let universal := clockOf universal.toPlainDateTime
  try
    let here ← Std.Time.PlainDateTime.now
    return ⟨clockOf here, universal⟩
  catch _ => return ⟨universal, universal⟩

/-! ## Writing back -/

/-- Writes the files that differ. -/
def store (before after : Workspace) : IO Unit := do
  for (place, bytes) in after.files do
    if before.entryAt place != some (.file bytes) then
      IO.FS.writeBinFile (Workspace.placeText place) (ByteArray.mk bytes.toArray)

/-- Runs the tool on the disk. -/
def run (preferences : Journal.Preferences) (arguments : List String) : IO UInt32 := do
  let cwd := (← IO.currentDir).toString
  let empty : Workspace := ⟨[], Journal.placeOf cwd⟩
  let start := empty.makeDirectories empty.cwd
  let w ← takeAll start (settingsFiles start arguments)
  let around : CommandLine.Surroundings :=
    ⟨w, ← environment (Settings.variableNames.map (·.1)), ← processors, ← now, preferences⟩
  let named := match CommandLine.read arguments with
    | .run r =>
      match CommandLine.settingsFor around r with
      | .ok s => namedBy s
      | .error _ => []
    | _ => []
  let w ← takeAll w (named ++ journalFiles preferences)
  let ending := CommandLine.run { around with workspace := w } arguments
  store w ending.workspace
  IO.print ending.output
  IO.eprint ending.errors
  match ending.code with
  | .ok code => return code.toUInt32
  | .error failure =>
    IO.eprintln failure.report
    return 1

end RouteDoc.Disk

/-- Runs the tool with the arguments of the command line. -/
def main (arguments : List String) : IO UInt32 := do
  let environment ← RouteDoc.Disk.environment RouteDoc.Disk.journalVariables
  match RouteDoc.Journal.Preferences.ofVariables environment with
  | .ok preferences => RouteDoc.Disk.run preferences arguments
  | .error fault =>
    IO.eprintln fault.message
    return 1
