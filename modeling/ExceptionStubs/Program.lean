import ExceptionStubs.Json.Printer
import ExceptionStubs.Log.Settings
import ExceptionStubs.Run
import ExceptionStubs.Settings
import ExceptionStubs.Sink.Directory
import ExceptionStubs.Sink.Memory
/-!
# The program

Opens the log, reads the settings, runs the generator over the snapshot and prints the report.
Without a dry run the classes are written below the output directory.
-/

namespace ExceptionStubs

/-- What a configured run leaves: its report or the reason why there is none, the lines of the log,
and the files. -/
structure ConfiguredRun where
  result : Except DiscoveryError RunReport
  log : List LogLine
  files : FileSystem

namespace Settings

def loadFailure (s : Settings) : String :=
  s!"failed to load marker snapshot {Text.quoted s.snapshot}"

/-- A run into memory, whose report says that nothing was written. -/
def dryRunOver (s : Settings) (source : DeclarationSource) (header : MetadataHeader)
    (files : FileSystem) : ConfiguredRun :=
  let outcome := run source s.options header (Sink.memory false) .idle OrderedMap.empty
  let ending :=
    match outcome.result with
    | .error _ => []
    | .ok _ =>
      [.plain .info "dry run; nothing written" [("rendered", toString outcome.state.size)]]
  ⟨outcome.result.map ({ · with dryRun := true }), outcome.events.flatMap RunEvent.traced ++ ending,
    files⟩

def runOver (s : Settings) (source : DeclarationSource) (header : MetadataHeader)
    (files : FileSystem) : ConfiguredRun :=
  let outcome := run source s.options header (Sink.directory s.outputDir true) .idle files
  ⟨outcome.result,
    .plain .info "writing generated sources" [("output_dir", s.outputDir)] ::
      outcome.events.flatMap RunEvent.traced,
    outcome.state⟩

def execute (s : Settings) (header : MetadataHeader) (files : FileSystem) : ConfiguredRun :=
  match Snapshot.load files s.snapshot with
  | .error e => ⟨.error e, [], files⟩
  | .ok snapshot =>
    let outcome :=
      if s.dryRun then s.dryRunOver snapshot.source header files
      else s.runOver snapshot.source header files
    { outcome with log := snapshot.loadedLine s.snapshot :: outcome.log }

end Settings

/-- What the program leaves: its exit code, its output, the message of its error, the lines of the
log and the files. -/
structure ProgramOutcome where
  exitCode : Nat
  output : String
  error : Option String
  log : List LogLine
  files : FileSystem

namespace ProgramOutcome

/-- The files below a directory that are not among the files before, with their paths. -/
def writtenFiles (o : ProgramOutcome) (before : FileSystem) (directory : String) :
    List (String × ByteArray) :=
  (o.files.listing directory).filter fun (path, content) =>
    match before.read path with
    | .ok old => old != content
    | .error _ => true

end ProgramOutcome

namespace Program

def helpText : String :=
  "Generate exception types and throwing implementation stubs from marked interfaces\n\n" ++
    s!"Usage: {programName} [OPTIONS]\n\nOptions:\n" ++
    "".intercalate (ValueOption.all.map fun o => s!"      --{o.name} <VALUE>\n") ++
    "".intercalate (Switch.all.map fun s => s!"      --{s.name}\n") ++
    "  -h, --help\n  -V, --version\n"

def usageCode : Nat := 2

def usage (e : UsageError) (files : FileSystem) : ProgramOutcome :=
  match e with
  | .displayHelp => ⟨0, helpText, none, [], files⟩
  | .displayVersion => ⟨0, s!"{programName} {programVersion}\n", none, [], files⟩
  | _ => ⟨usageCode, "", none, [], files⟩

def failed (message : String) (log : List LogLine) (files : FileSystem) : ProgramOutcome :=
  ⟨1, "", some message, log, files⟩

def skippedMessage (r : RunReport) : String :=
  s!"{r.conflicts.length} conflict(s), {r.writeFailures.length} write failure(s), " ++
    s!"{r.malformed.length} malformed declaration(s)"

/-- The report is printed, and the program fails if it has to be clean and is not. -/
def reported (s : Settings) (r : RunReport) (log : List LogLine) (files : FileSystem) :
    ProgramOutcome :=
  let failing := s.failOnConflict && !r.isClean
  { exitCode := if failing then 1 else 0
    output := r.toJson.renderIndented ++ "\n"
    error := if failing then some (skippedMessage r) else none
    log := log
    files := files }

def logFailure : String := "Failed to create log directory"

def runLogged (arguments : List String) (environment : Environment) (now : Timestamp)
    (files : FileSystem) : ProgramOutcome :=
  match Arguments.parse arguments environment with
  | .error e => usage e files
  | .ok a =>
    match Settings.ofArguments files a with
    | .error e => failed e.message [] files
    | .ok s =>
      match s.fault? files with
      | some e => failed e.message [] files
      | none =>
        let outcome := s.execute ⟨now⟩ files
        match outcome.result with
        | .error _ => failed s.loadFailure outcome.log outcome.files
        | .ok r => reported s r outcome.log outcome.files

def run (arguments : List String) (environment : Environment) (now : Timestamp)
    (files : FileSystem) : ProgramOutcome :=
  match (LogSettings.ofEnvironment environment).openIn files with
  | (.error _, files') => failed logFailure [] files'
  | (.ok (), files') => runLogged arguments environment now files'

end Program

end ExceptionStubs
