/-
The generator: handler files in, documented handler files out.

A generator has its settings, its route table, and the storage it writes to,
which may refuse the block of a function. A file is handled by reading it once,
picking the handlers that are not documented yet, and writing their blocks from
the last to the first, so that the places found by the one reading stay right. A
run handles every handler file and reports on each of them; a file that cannot
be parsed does not keep the others from being handled. Only a failure that is
not one of a splice breaks the handling of a file off, and then there is no
report.
-/
import RouteDoc.DocBlock
import RouteDoc.Coverage
import RouteDoc.Discovery
import RouteDoc.Handler
import RouteDoc.RequestType.Lookup
import RouteDoc.Route.Router
import RouteDoc.Settings
import RouteDoc.Splice

namespace RouteDoc

/-- A handler with its route and its block. -/
structure Annotated where
  handler : Handler
  route : Route
  block : CodeText

/-- What became of a file. -/
structure FileResult where
  path : String
  counts : Counts
  failure : Option Failure
  /-- The handlers that were not documented before, in the order they were handled. -/
  annotated : List Annotated
  /-- The failure that the handling of the file broke off with. What has been counted until then is
  not reported. -/
  raised : Option Failure := none

def FileResult.ok (r : FileResult) : Bool := r.failure.isNone

/-- What became of all files. -/
structure Report where
  total : Counts
  results : List FileResult

def Report.succeeded (r : Report) : Nat := (r.results.filter FileResult.ok).length

def Report.failed (r : Report) : Nat := (r.results.filter fun x => !x.ok).length

structure Generator where
  settings : Settings
  routes : RouteTable
  /-- The security scheme in the blocks: that of the settings, which may have been handed over with
  surrogates that stand alone. -/
  scheme : CodeText := settings.securityScheme
  /-- The lead of the paths in the blocks, in the same way. -/
  lead : CodeText := settings.apiLead
  /-- Why the storage does not take the block of a function of a file; nothing where it does. -/
  refusal : String → Go.Declaration → Option String := fun _ _ => none

namespace Generator

/-- A note of the generator. -/
def reportNote (level : Level) (message : String) (fields : Fields) (file : Option String) :
    Note :=
  ⟨level, loggerName "orchestrator", message, fields, file⟩

def groups (settings : Settings) : Route.Groups :=
  ⟨settings.authorizedGroup, settings.publicGroup⟩

/-- The routes of the router file; none where it cannot be read. -/
def loadRoutes (settings : Settings) (s : Session) : RouteTable × Session :=
  match Route.readRouter s.workspace (groups settings) settings.routerFile with
  | .ok table => (table, s)
  | .error failure =>
    ([], s.note (reportNote .warning
      "Could not extract routes from router file, using handler name analysis"
      [("router_file", .str settings.routerFile), ("error", .str failure.reason)] none))

/-- A generator with the given routes, or else those of the router file. -/
def create (settings : Settings) (routes : Option RouteTable) (s : Session) :
    Generator × Session :=
  match routes with
  | some table => ({ settings, routes := table }, s)
  | none =>
    let (table, s) := loadRoutes settings s
    ({ settings, routes := table }, s)

variable (g : Generator)

/-- A handler with its route and its block. -/
def annotate (file : Option String) (h : Handler) (s : Session) : Annotated × Session :=
  let route := Route.resolve g.routes g.lead h.name
  let (type, s) :=
    s.requestType g.settings.typesPaths file (DocBlock.requestName h.name)
  (⟨h, route, DocBlock.block g.scheme type h.name h.receiver route⟩, s)

/-! ## Picking handlers -/

/-- The counts of functions: all of them, the handlers, and the documented ones. -/
def countsOf (ds : List Go.Declaration) : Counts :=
  let handlers := ds.filterMap Handler.of?
  { total := ds.length, handlers := handlers.length,
    alreadyDocumented := (handlers.filter (·.documented)).length }

/-- The handlers that are not documented. -/
def pendingOf (ds : List Go.Declaration) : List Handler :=
  (ds.filterMap Handler.of?).filter fun h => !h.documented

/-- A note for each handler that is documented. -/
def documentedNotes (file : Option String) (ds : List Go.Declaration) : List Note :=
  ((ds.filterMap Handler.of?).filter (·.documented)).map fun h =>
    reportNote .debug "Already has swagger comment" [("handler", .str h.name)] file

/-- The counts of a file and its handlers that are not documented. -/
def collect (file : Option String) (path : String) (s : Session) :
    Except Failure (Counts × List Handler) × Session :=
  match s.source file path with
  | (.error failure, s) => (.error failure, s)
  | (.ok source, s) =>
    let ds := source.declarations
    (.ok (countsOf ds, pendingOf ds), (documentedNotes file ds).foldl Session.note s)

/-! ## Files -/

def oneMore (c : Counts) : Counts := { c with newlyDocumented := c.newlyDocumented + 1 }

/-- Writes one block, or only announces it. -/
def writeBlock (path : String) (file : Option String) (a : Annotated) (r : FileResult)
    (s : Session) : FileResult × Session :=
  let name : String × Value := ("handler", .str a.handler.name)
  let done : FileResult :=
    { r with counts := oneMore r.counts, annotated := r.annotated ++ [a] }
  if g.settings.dryRun then
    (done, s.note (reportNote .info "Would add comment" [name, ("comment", .str a.block.shown)]
      file))
  else
    let d := a.handler.declaration
    match s.workspace.document path d a.block (g.refusal path d) with
    | .error failure =>
      if failure.isOf .splice then
        (r, s.note (reportNote .error "Error updating comment"
          [name, ("error", .str failure.reason)] file))
      else ({ r with raised := some failure }, s)
    | .ok w =>
      let s := { s with workspace := w }
      (done, if g.settings.verbose then
        s.note (reportNote .info "Generated comment" [name] file) else s)

/-- Handles the handlers of a file, one after the other, until one breaks it off. -/
def writeBlocks (path : String) (file : Option String) :
    List Handler → FileResult → Session → FileResult × Session
  | [], r, s => (r, s)
  | h :: rest, r, s =>
    let (a, s) := g.annotate file h s
    let (r, s) := g.writeBlock path file a r s
    if r.raised.isSome then (r, s) else writeBlocks path file rest r s

/-- Handles one file. -/
def processFile (path : String) (s : Session) : FileResult × Session :=
  let file := some (PathText.base path)
  match collect file path s with
  | (.error failure, s) =>
    (⟨path, {}, some failure, [], none⟩, s.note (reportNote .error "Error processing file"
      [("path", .str path), ("error", .str failure.reason)] file))
  | (.ok (counts, pending), s) =>
    g.writeBlocks path file pending.reverse ⟨path, counts, none, [], none⟩ s

def processFiles : List String → Session → List FileResult × Session
  | [], s => ([], s)
  | path :: rest, s =>
    let (r, s) := g.processFile path s
    let (results, s) := processFiles rest s
    (r :: results, s)

/-! ## Runs -/

def countField (name : String) (n : Nat) : String × Value := (name, .int n)

/-- The note on the settings at the start of a run. -/
def settingsNote (files : Nat) : Note :=
  let c := g.settings
  reportNote .info "Configuration"
    [("handler_dir", .str c.handlerDir), ("router_file", .str c.routerFile),
      ("handler_pattern", .str c.handlerPattern), ("api_prefix", .str g.lead.shown),
      ("security_scheme", .str g.scheme.shown), ("concurrency", .int c.concurrency),
      ("types_paths", .str (Text.joinStrings "," c.typesPaths)),
      countField "routes" g.routes.length, countField "files" files] none

/-- The coverage of a file with one decimal. -/
def shareText (c : Counts) : String :=
  match c.coverage with
  | .ok x => Counts.coverageText x
  | .error failure => failure.message

/-- The notes on a file that is done; `before` are the results of the files before it. -/
def resultNotes (before : List FileResult) (r : FileResult) : List Note :=
  let c := r.counts
  let failed := ((before ++ [r]).filter fun x => !x.ok).length
  let processed := before.length + 1
  [reportNote .info "Processed file"
      [("file", .str (PathText.base r.path)), ("total", .int c.total),
        ("handlers", .int c.handlers), ("already_documented", .int c.alreadyDocumented),
        ("newly_documented", .int c.newlyDocumented), ("coverage", .str (shareText c))] none,
    reportNote .info "Progress"
      [countField "processed" processed, countField "successful" (processed - failed),
        countField "failed" failed] none]

/-- The notes on all files. -/
def progressNotes (before : List FileResult) : List FileResult → List Note
  | [] => []
  | r :: rest => resultNotes before r ++ progressNotes (before ++ [r]) rest

/-- The sum of the counts of the files that could be handled. -/
def totalOf (results : List FileResult) : Counts :=
  (results.filter FileResult.ok).foldl (fun c r => c + r.counts) {}

/-- The notes at the end of a run. -/
def closingNotes (names : Nat) (r : Report) : List Note :=
  (if g.settings.verbose then
    [reportNote .info "Request types looked up" [countField "types" names] none] else []) ++
  (if r.failed == 0 then [] else
    [reportNote .warning "Completed with errors"
      [countField "failed" r.failed, countField "successful" r.succeeded] none])

/-- The session at the start of a run over some files. -/
def opened (files : Nat) (s : Session) : Session :=
  if g.settings.verbose then s.note (g.settingsNote files) else s

/-- How a run ends when every file has been handled: with the first failure that one of them broke
off with, or else with a report. -/
def conclude (results : List FileResult) (s : Session) : Except Failure Report × Session :=
  let told := results.takeWhile fun r => r.raised.isNone
  let s := if g.settings.verbose then (progressNotes [] told).foldl Session.note s else s
  match results.findSome? FileResult.raised with
  | some failure => (.error failure, s)
  | none =>
    let report : Report := ⟨totalOf results, results⟩
    (.ok report, (g.closingNotes s.requestTypes.length report).foldl Session.note s)

/-- Handles every handler file. -/
def run (s : Session) : Except Failure Report × Session :=
  match Discovery.handlerFiles s.workspace g.settings.handlerDir g.settings.handlerPattern with
  | .error failure => (.error failure, s)
  | .ok [] => (.error (.noHandlers g.settings.handlerDir g.settings.handlerPattern), s)
  | .ok files =>
    let (results, s) := g.processFiles files (g.opened files.length s)
    g.conclude results s

end Generator

end RouteDoc
