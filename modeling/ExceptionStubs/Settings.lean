import ExceptionStubs.Run.Plan
import ExceptionStubs.Settings.Arguments
import ExceptionStubs.Settings.ConfigFile
/-!
# Settings

Every setting comes from the arguments, else from the environment, else from the configuration file,
else it has a default. Switches can turn things off that a file turns on, and on what a file leaves
off, but not the other way round.
-/

namespace ExceptionStubs

structure Settings where
  snapshot : String
  outputDir : String
  metadataHeader : Bool
  consistencyCheck : Bool
  shapePolicy : ShapePolicy
  modelMarker : String
  annotationType : String
  failOnConflict : Bool
  dryRun : Bool
deriving Repr

inductive SettingsError where
  | configFile (cause : ConfigFileError)
  | noSnapshot
  | emptyOutputDir
  | emptyModelMarker
  | invalidAnnotationType (name : String)
  | snapshotNotFile (path : String)
  | outputNotDirectory (path : String)
deriving DecidableEq, Repr

def SettingsError.message : SettingsError → String
  | .configFile cause => cause.message
  | .noSnapshot =>
    "no marker snapshot configured; pass --snapshot or set `snapshot` in the config file"
  | .emptyOutputDir => "output directory must not be empty"
  | .emptyModelMarker => "component model marker must not be empty"
  | .invalidAnnotationType name =>
    s!"component annotation {Text.quoted name} is not a valid type name"
  | .snapshotNotFile path =>
    s!"marker snapshot {Text.quoted path} does not exist or is not a file"
  | .outputNotDirectory path => s!"output directory {Text.quoted path} is not a directory"

namespace Settings

def defaultOutputDir : String := "generated-sources"

/-- An annotation without blanks at its ends and without the signs in front of it. -/
def normalizeAnnotationType (name : String) : String :=
  String.ofList ((Text.trim name).toList.dropWhile (· == '@'))

def merge (a : Arguments) (file : ConfigFile) : Except SettingsError Settings :=
  match (a.value? .snapshot).or file.snapshot with
  | none => .error .noSnapshot
  | some snapshot => .ok {
      snapshot := snapshot
      outputDir := ((a.value? .outputDir).or file.outputDir).getD defaultOutputDir
      metadataHeader := !a.isSet .noMetadataHeader && file.metadataHeader.getD true
      consistencyCheck := !a.isSet .noConsistencyCheck && file.consistencyCheck.getD true
      shapePolicy :=
        (((a.value? .shapePolicy).bind ShapePolicy.ofWord?).or file.shapePolicy).getD .strict
      modelMarker :=
        (((a.value? .modelMarker).or file.modelMarker).map Text.trim).getD
          ComponentSettings.defaultModel
      annotationType :=
        (((a.value? .annotationType).or file.annotationType).map normalizeAnnotationType).getD
          ComponentSettings.defaultAnnotation
      failOnConflict := a.isSet .failOnConflict || file.failOnConflict.getD false
      dryRun := a.isSet .dryRun || file.dryRun.getD false }

def ofArguments (fs : FileSystem) (a : Arguments) : Except SettingsError Settings :=
  match a.value? .config with
  | none => merge a .empty
  | some path =>
    match ConfigFile.load fs path with
    | .error cause => .error (.configFile cause)
    | .ok file => merge a file

def fault? (fs : FileSystem) (s : Settings) : Option SettingsError :=
  if s.outputDir.isEmpty then some .emptyOutputDir
  else if s.modelMarker.isEmpty then some .emptyModelMarker
  else if !JavaName.isQualifiedName s.annotationType then
    some (.invalidAnnotationType s.annotationType)
  else if !fs.hasFile s.snapshot then some (.snapshotNotFile s.snapshot)
  else if fs.hasPath s.outputDir && !fs.hasDirectory s.outputDir then
    some (.outputNotDirectory s.outputDir)
  else none

def options (s : Settings) : GenerationOptions where
  metadataHeader := s.metadataHeader
  consistencyCheck := s.consistencyCheck
  shapePolicy := s.shapePolicy
  component := ⟨s.modelMarker, s.annotationType⟩

end Settings

end ExceptionStubs
