/-
The tool as a function of its arguments and its surroundings.

A run of the tool ends with an exit code, with what it has shown, and with the
files it leaves behind. Settings that are wrong and handler files that are
missing are reported; any other failure is left to the caller.
-/
import RouteDoc.CommandLine.Request
import RouteDoc.CommandLine.Usage
import RouteDoc.Generator
import RouteDoc.Journal
import RouteDoc.Settings.File
import RouteDoc.Version

namespace RouteDoc.CommandLine

/-- What the tool finds around it. -/
structure Surroundings where
  workspace : Workspace
  environment : Settings.Environment
  processors : Option Int
  moment : Journal.Moment
  journal : Journal.Preferences

/-- How the tool ends. -/
structure Ending where
  /-- The exit code, or the failure that nobody has dealt with. -/
  code : Except Failure Nat
  output : String
  errors : String
  workspace : Workspace

/-- The end of a run that has shown nothing but an error. -/
def stopped (w : Workspace) (code : Nat) (errors : String) : Ending := ⟨.ok code, "", errors, w⟩

/-- The line for a failure. -/
def errorLine (f : Failure) : String := s!"Error: {f.message}\n"

/-- The settings of a run. -/
def settingsFor (around : Surroundings) (r : Request) : Except Failure Settings :=
  Settings.resolve around.processors around.workspace (r.config.map PathText.tidy)
    around.environment r.settings

/-- How much the journal shows: everything of note, or only errors. -/
def journalLevel (s : Settings) : String := if s.verbose then "INFO" else "ERROR"

/-- The end of a run of the generator; `shown` is what the journal has put on the console. -/
def endingOf (w : Workspace) (shown : String) : Except Failure Report → Ending
  | .error failure =>
    if failure.isOf .discovery then
      stopped w 1 (shown ++ errorLine failure ++ s!"Current working directory: {w.cwdText}\n")
    else ⟨.error failure, "", shown, w⟩
  | .ok report =>
    let failed := if report.failed == 0 then "" else
      s!"Completed with {report.failed} errors and {report.succeeded} successful files\n"
    match report.total.summary with
    | .ok summary => ⟨.ok 0, summary ++ "\n", shown ++ failed, w⟩
    | .error failure => ⟨.error failure, "", shown ++ failed, w⟩

/-- Runs the generator with settings, and the journal beside it. -/
def generate (around : Surroundings) (json : Option Bool) (settings : Settings) : Ending :=
  let journal := Journal.start around.journal around.moment around.workspace
  match journal.configure (some (journalLevel settings)) json none with
  | (.error failure, journal) => ⟨.error failure, "", journal.console, journal.workspace⟩
  | (.ok _, journal) =>
    let (generator, session) := Generator.create settings none (.start journal.workspace)
    let (result, session) := generator.run session
    let journal := session.notes.foldl Journal.writeNote
      { journal with workspace := session.workspace }
    endingOf journal.workspace journal.console result

/-- Does what is asked for. -/
def perform (around : Surroundings) (r : Request) : Ending :=
  match settingsFor around r with
  | .error failure =>
    if failure.isOf .settings then stopped around.workspace 1 (errorLine failure)
    else ⟨.error failure, "", "", around.workspace⟩
  | .ok settings => generate around r.json settings

/-- Runs the tool. -/
def run (around : Surroundings) (arguments : List String) : Ending :=
  match read arguments with
  | .run r => perform around r
  | .help => ⟨.ok 0, help, "", around.workspace⟩
  | .version => ⟨.ok 0, packageName ++ " " ++ version ++ "\n", "", around.workspace⟩
  | .refused why =>
    stopped around.workspace 2 (usage ++ s!"{packageName}: error: {why.message}\n")

end RouteDoc.CommandLine
