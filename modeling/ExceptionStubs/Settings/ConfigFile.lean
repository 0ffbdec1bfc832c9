import ExceptionStubs.Consistency
import ExceptionStubs.FileSystem
import ExceptionStubs.Json.Reader
import ExceptionStubs.Text.Quoted
import ExceptionStubs.Yaml.Reading
/-!
# Configuration files

A configuration file sets some of the settings. It may hold no field that is not one of them, and
null means that a field is not set.
-/

namespace ExceptionStubs

structure ConfigFile where
  snapshot : Option String
  outputDir : Option String
  metadataHeader : Option Bool
  consistencyCheck : Option Bool
  shapePolicy : Option ShapePolicy
  modelMarker : Option String
  annotationType : Option String
  failOnConflict : Option Bool
  dryRun : Option Bool
deriving Repr

inductive ConfigFileError where
  | missing (path : String)
  | unreadable (path : String)
  | invalidYaml (path : String)
  | invalidJson (path : String)
  | unsupportedExtension (extension : String)
deriving DecidableEq, Repr

def ConfigFileError.message : ConfigFileError → String
  | .missing path => s!"config file {Text.quoted path} does not exist"
  | .unreadable path => s!"failed to read config file {Text.quoted path}"
  | .invalidYaml path => s!"failed to parse YAML config {Text.quoted path}"
  | .invalidJson path => s!"failed to parse JSON config {Text.quoted path}"
  | .unsupportedExtension extension => s!"unsupported config extension: {extension}"

namespace ConfigFile

def empty : ConfigFile := ⟨none, none, none, none, none, none, none, none, none⟩

def fieldNames : List String :=
  ["snapshot", "output_dir", "metadata_header", "consistency_check", "constructor_shape_policy",
    "component_model_marker", "component_annotation", "fail_on_conflict", "dry_run"]

def optional? {α : Type} (read : Json → Option α) : Option Json → Option (Option α)
  | none | some .null => some none
  | some v => (read v).map some

def policyOfJson? : Json → Option ShapePolicy
  | .string word => word.bind ShapePolicy.ofWord?
  | .object [(some word, .null)] => ShapePolicy.ofWord? word
  | _ => none

def members? (v : Json) : Option (List (Option Json)) :=
  match v with
  | .array items => if items.length = fieldNames.length then v.members? fieldNames else none
  | .object fields =>
    if fields.all fun (name, _) => name.any fieldNames.contains then v.members? fieldNames else none
  | _ => none

def ofJson? (v : Json) : Option ConfigFile :=
  match members? v with
  | some [snapshot, outputDir, header, check, policy, marker, annotationType, failing, dry] => do
    return {
      snapshot := ← optional? Json.string? snapshot
      outputDir := ← optional? Json.string? outputDir
      metadataHeader := ← optional? Json.bool? header
      consistencyCheck := ← optional? Json.bool? check
      shapePolicy := ← optional? policyOfJson? policy
      modelMarker := ← optional? Json.string? marker
      annotationType := ← optional? Json.string? annotationType
      failOnConflict := ← optional? Json.bool? failing
      dryRun := ← optional? Json.bool? dry }
  | _ => none

def ofJsonText? (text : String) : Option ConfigFile := (Json.ofText? text).bind ofJson?

def ofYaml (doc : Yaml.Document) : Yaml.Reading ConfigFile := do
  match ← doc.rootRecord fieldNames false with
  | [snapshot, outputDir, header, check, policy, marker, annotationType, failing, dry] =>
    let readPolicy := fun node => do StateT.lift (ShapePolicy.ofWord? (← doc.word node))
    return {
      snapshot := ← doc.optional doc.text snapshot
      outputDir := ← doc.optional doc.text outputDir
      metadataHeader := ← doc.optional doc.bool header
      consistencyCheck := ← doc.optional doc.bool check
      shapePolicy := ← doc.optional readPolicy policy
      modelMarker := ← doc.optional doc.text marker
      annotationType := ← doc.optional doc.text annotationType
      failOnConflict := ← doc.optional doc.bool failing
      dryRun := ← doc.optional doc.bool dry }
  | _ => failure

def ofYamlText? (text : String) : Option ConfigFile :=
  (Yaml.Document.ofText? text).bind fun doc => (ofYaml doc).run' 0

def load (fs : FileSystem) (path : String) : Except ConfigFileError ConfigFile :=
  if !fs.hasPath path then .error (.missing path)
  else
    match fs.readText path with
    | .error _ => .error (.unreadable path)
    | .ok text =>
      let extension := Path.lowerExtension path
      if extension == "yaml" || extension == "yml" then
        (ofYamlText? text).elim (.error (.invalidYaml path)) .ok
      else if extension == "json" then (ofJsonText? text).elim (.error (.invalidJson path)) .ok
      else .error (.unsupportedExtension extension)

end ConfigFile

end ExceptionStubs
