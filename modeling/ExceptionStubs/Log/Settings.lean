import ExceptionStubs.ClassText.MetadataHeader
import ExceptionStubs.FileSystem
import ExceptionStubs.Json.Printer
import ExceptionStubs.Log.Line
import ExceptionStubs.Settings.Arguments
import ExceptionStubs.Text.LowerCase
/-!
# Settings of the log

The environment says where the log goes and in which form. Words that are not known change nothing.
-/

namespace ExceptionStubs

inductive LogFormat where
  | json
  | pretty
deriving DecidableEq, Repr

inductive LogOutput where
  | stdout
  | stderr
  | file
deriving DecidableEq, Repr

def LogFormat.render (format : LogFormat) (l : LogLine) : String :=
  match format with
  | .json =>
    let fields := l.fields.map fun (name, v) => (name, .ofString v)
    (Json.ofFields <|
      [("level", .ofString l.level.word), ("message", .ofString l.message)] ++ fields).render
  | .pretty =>
    s!"{l.level.word}: {l.message}" ++
      "".intercalate (l.fields.map fun (name, v) => s!", {name}: {v}")

structure LogSettings where
  format : LogFormat
  output : LogOutput
  directory : String
  fileStart : String
  serviceName : String
  serviceVersion : String
  environment : String
  rotates : Bool
deriving Repr

namespace LogSettings

def environmentName (env : Environment) : String :=
  ((env.lookup "ENVIRONMENT").or (env.lookup "ENV")).getD "development"

def format? (word : String) : Option LogFormat :=
  [("json", .json), ("pretty", .pretty)].lookup (Text.lowerCase word)

def output? (word : String) : Option LogOutput :=
  [("stdout", .stdout), ("stderr", .stderr), ("file", .file)].lookup (Text.lowerCase word)

/-- The settings that the environment asks for. The standard output is left to the report. -/
def ofEnvironment (env : Environment) : LogSettings where
  format :=
    ((env.lookup "LOG_FORMAT").bind format?).getD
      (if ["production", "prod"].contains (environmentName env) then .json else .pretty)
  output := ((env.lookup "LOG_OUTPUT").bind output?).getD .stderr
  directory := (env.lookup "LOG_DIR").getD "logs"
  fileStart := programName
  serviceName := programName
  serviceVersion := programVersion
  environment := environmentName env
  rotates := true

def openIn (s : LogSettings) (files : FileSystem) : Except IoFailure Unit × FileSystem :=
  match s.output with
  | .file => files.createDirectories s.directory
  | .stdout | .stderr => (.ok (), files)

end LogSettings

end ExceptionStubs
