import ExportStream.CommandLine.Arguments
import ExportStream.CommandLine.Report
import ExportStream.CommandLine.SettingsFile
import ExportStream.Log.Line
import ExportStream.Session.Import
/-!
# Runs of the program

A run reads its arguments and its settings, starts logging, imports the export and reports. The
first of these steps that fails ends it. What a run comes to is a value (`Outcome`): what is
written, and the number that the program ends with.
-/

namespace ExportStream.CommandLine

/-- What a run comes to. -/
structure Outcome where
  /-- The number that the program ends with. -/
  exit : Nat
  /-- What is written as the result. -/
  output : String := ""
  /-- What is written about faults. -/
  errors : String := ""
  /-- What is logged to a file. -/
  log : Option LogFile := none
  deriving DecidableEq

namespace Outcome

/-- The outcome when the arguments make no sense. -/
def misused : Outcome where
  exit := 2
  errors := "Usage: docport [OPTIONS] <FILE>\n"

/-- The outcome when the program stops before the import. -/
def refused (message : String) (log : Option LogFile) : Outcome where
  exit := 1
  errors := "docport: " ++ message ++ "\n"
  log := log

/-- The outcome of an import. -/
def reported (json : Bool) (r : Report) (log : Option LogFile) : Outcome where
  exit := if r.succeeded then 0 else 1
  output := if json then r.json else r.text
  errors := if json then "" else r.complaint
  log := log

end Outcome

/-- What a run works under, once it is prepared. -/
structure Setup where
  /-- The options of the import. -/
  options : Options
  /-- The settings of logging. -/
  logging : LogConfig
  deriving DecidableEq

variable {m : Type → Type} [Monad m]

/-! ### Preparing -/

/-- Makes ready for logging, which needs valid settings and, if it is to a file, a directory. -/
def startLogging (s : Surroundings m) (c : LogConfig) : m (Except String Unit) := do
  match c.validate with
  | .error f => return .error f.message
  | .ok () =>
    if c.file.enabled then
      return (← s.makeDirectories c.directory).mapError DeviceFault.message
    else return .ok ()

/-- Loads and checks all that a run works under. -/
def prepare (s : Surroundings m) (a : Arguments) : m (Except String Setup) := do
  match ← Settings.loadFrom s a.config with
  | .error f => return .error ("Failed to load settings: " ++ f.message)
  | .ok settings =>
    let options := a.adjust settings.options
    match options.validate with
    | .error f => return .error f.message
    | .ok () =>
      let logging := settings.logging.under s.environment
      match ← startLogging s logging with
      | .error message => return .error ("Failed to initialise logging: " ++ message)
      | .ok () => return .ok { options, logging }

/-! ### Importing -/

/-- The bytes of an entry; a directory can be opened, but not read. -/
def supplyOf : Entry → Supply
  | .file bytes => { rest := bytes }
  | .directory => { rest := [], faults := [⟨0, .isDirectory⟩] }

/-- Where payloads go: nowhere, or to files in a directory. A directory without a name is the
present one. -/
def sinksFor (s : Surroundings m) (a : Arguments) : m Sinks := do
  if a.keepAttachments then
    let directory := a.attachmentsDirectory.getD ((s.environment.value? "TMPDIR").getD "/tmp")
    match ← s.look (if directory.isEmpty then "." else directory) with
    | .ok .directory => return .files
    | .ok (.file _) => return .unavailable .isNoDirectory
    | .error f => return .unavailable f
  else return .discard

/-- The notice that logging has begun. -/
def readyNotice (c : LogConfig) : Notice := .ready c.level c.format.name c.directory c.file.enabled

/-- The notice that an import was given up, if it was. -/
def abortNotices (r : Report) : List Notice :=
  r.failure.toList.map fun f => .aborted f.status.describe f.message

/-- The notice that the log file is about to be closed, if there is one. -/
def closingNotices (c : LogConfig) : List Notice :=
  if c.file.enabled then [.flushing 5000] else []

/-- The log file of a run. -/
def logFile (s : Surroundings m) (c : LogConfig) (notices : List Notice) : Option LogFile :=
  LogFile.of? c (.choose (s.environment.value? "RUST_LOG") c.directive) notices

/-- Imports an export and counts what it holds. The result is the report, with the notices. -/
def importFrom (options : Options) (sinks : Sinks) (supply : Supply) : Report × List Notice :=
  let (r, i) := Import.run supply options {} sinks Census.handler {}
  let failure :=
    match r with
    | .ok () => none
    | .error f => some f
  ({ tally := i.session.tally, failure }, i.session.cursor.journal.reverse)

/-- Imports the export that the arguments name. -/
def importFile (s : Surroundings m) (a : Arguments) (setup : Setup) : m Outcome := do
  let ready := readyNotice setup.logging
  match ← s.look a.file with
  | .error f =>
    return .refused ("Cannot open " ++ a.file ++ ": " ++ f.message)
      (logFile s setup.logging [ready])
  | .ok entry =>
    let sinks ← sinksFor s a
    let (report, journal) := importFrom setup.options sinks (supplyOf entry)
    let notices :=
      ready :: .starting a.file :: journal ++ abortNotices report ++ closingNotices setup.logging
    return .reported a.json report (logFile s setup.logging notices)

/-- Runs the program. -/
def run (s : Surroundings m) (line : List String) : m Outcome := do
  match Arguments.read? s.environment line with
  | none => return .misused
  | some a =>
    match ← prepare s a with
    | .error message => return .refused message none
    | .ok setup => importFile s a setup

end ExportStream.CommandLine
