import ExceptionStubs.Log.Settings
import ExceptionStubs.Program
import Std.Time.Zoned
/-!
# The command line

Fetches what the program looks at from the disk, runs it, and carries out what it leaves.
-/

namespace ExceptionStubs.CommandLine

/-- The code of the system for a directory that is read as a file. -/
def directoryCode : UInt32 := 21

def fetchEntry (fs : FileSystem) (path : String) : IO FileSystem := do
  let found ←
    try pure (some (some (← IO.FS.readBinFile path)))
    catch
      | .inappropriateType _ code _ => pure (if code = directoryCode then some none else none)
      | _ => pure none
  match found with
  | none => return fs
  | some content => return (fs.withEntry path content).toOption.getD fs

/-- The file system with what is behind a path on the disk, and behind the paths that lead there. -/
def fetch (fs : FileSystem) (path : String) : IO FileSystem :=
  let components := Path.components path
  (List.range components.length).foldlM
    (fun fs n => fetchEntry fs ("/".intercalate (components.take (n + 1)))) fs

def variableNames : List String :=
  ValueOption.all.filterMap ValueOption.environmentName? ++
    ["ENVIRONMENT", "ENV", "LOG_FORMAT", "LOG_OUTPUT", "LOG_DIR"]

def environment : IO Environment := do
  let found ← variableNames.mapM fun name => return (name, ← IO.getEnv name)
  return found.filterMap fun (name, value) => value.map (name, ·)

def now : IO Timestamp := do
  let t ← Std.Time.PlainDateTime.now
  -- A leap second is the second 59 once more, with a billion nanoseconds.
  let leap := t.second.toNat / 60
  let time := Timestamp.ofFields? t.year.toInt t.month.toNat t.day.toNat t.hour.toNat
    t.minute.toNat (t.second.toNat - leap) (leap * 1000000000)
  time.getDM (throw (.userError "the clock shows no time of the calendar"))

def save (path : String) (content : ByteArray) : IO Unit := do
  match Text.cutLast '/' path with
  | some (directory, _) => if !directory.isEmpty then IO.FS.createDirAll directory
  | none => pure ()
  IO.FS.writeBinFile path content

def writeLog (settings : LogSettings) (lines : List LogLine) : IO Unit := do
  for l in lines.filter LogLine.isShown do
    let line := settings.format.render l ++ "\n"
    match settings.output with
    | .stdout => (← IO.getStdout).putStr line
    | .stderr => (← IO.getStderr).putStr line
    | .file =>
      IO.FS.createDirAll settings.directory
      let handle ← IO.FS.Handle.mk (Path.push settings.directory settings.fileStart) .append
      handle.putStr line

def logDirectory? (env : Environment) : Option String :=
  let settings := LogSettings.ofEnvironment env
  match settings.output with
  | .file => some settings.directory
  | .stdout | .stderr => none

/-- The files that the program looks at, and the directory that it writes to. -/
def gather (arguments : List String) (env : Environment) : IO (FileSystem × Option String) := do
  let fs ← (logDirectory? env).toList.foldlM fetch (.empty .common)
  match Arguments.parse arguments env with
  | .error _ => return (fs, none)
  | .ok a =>
    let fs ← (a.value? .config).toList.foldlM fetch fs
    match Settings.ofArguments fs a with
    | .error _ => return (fs, none)
    | .ok s => return (← [s.snapshot, s.outputDir].foldlM fetch fs, some s.outputDir)

end ExceptionStubs.CommandLine

open ExceptionStubs

def main (arguments : List String) : IO UInt32 := do
  let env ← CommandLine.environment
  let (files, outputDir) ← CommandLine.gather arguments env
  let outcome := Program.run arguments env (← CommandLine.now) files
  CommandLine.writeLog (.ofEnvironment env) outcome.log
  for (path, content) in outputDir.toList.flatMap (outcome.writtenFiles files) do
    CommandLine.save path content
  IO.print outcome.output
  if outcome.exitCode = Program.usageCode then IO.eprint Program.helpText
  if let some message := outcome.error then IO.eprintln s!"Error: {message}"
  return outcome.exitCode.toUInt32
