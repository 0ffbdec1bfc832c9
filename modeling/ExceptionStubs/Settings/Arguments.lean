import ExceptionStubs.Consistency
/-!
# Command line arguments

Options take one value, behind an equals sign or as the next argument; switches take none. Nothing
may be given twice. Some options can be set by a variable of the environment instead, which counts
only if the option itself is not there.
-/

namespace ExceptionStubs

abbrev Environment := List (String × String)

inductive ValueOption where
  | config
  | snapshot
  | outputDir
  | shapePolicy
  | modelMarker
  | annotationType
deriving DecidableEq, Repr

namespace ValueOption

def name : ValueOption → String
  | .config => "config"
  | .snapshot => "snapshot"
  | .outputDir => "output-dir"
  | .shapePolicy => "constructor-shape-policy"
  | .modelMarker => "component-model-marker"
  | .annotationType => "component-annotation"

def environmentName? : ValueOption → Option String
  | .config => none
  | .snapshot => some "THROWGEN_SNAPSHOT"
  | .outputDir => some "THROWGEN_OUTPUT_DIR"
  | .shapePolicy => some "THROWGEN_CONSTRUCTOR_SHAPE_POLICY"
  | .modelMarker => some "THROWGEN_COMPONENT_MODEL"
  | .annotationType => some "THROWGEN_COMPONENT_ANNOTATION"

def all : List ValueOption :=
  [.config, .snapshot, .outputDir, .shapePolicy, .modelMarker, .annotationType]

/-- A value that an option takes: a path is not empty, and a policy is spelled exactly. -/
def accepts (o : ValueOption) (value : String) : Bool :=
  match o with
  | .config | .snapshot | .outputDir => !value.isEmpty
  | .shapePolicy => (ShapePolicy.ofWord? value).isSome
  | .modelMarker | .annotationType => true

end ValueOption

inductive Switch where
  | noMetadataHeader
  | noConsistencyCheck
  | failOnConflict
  | dryRun
deriving DecidableEq, Repr

namespace Switch

def name : Switch → String
  | .noMetadataHeader => "no-metadata-header"
  | .noConsistencyCheck => "no-consistency-check"
  | .failOnConflict => "fail-on-conflict"
  | .dryRun => "dry-run"

def all : List Switch := [.noMetadataHeader, .noConsistencyCheck, .failOnConflict, .dryRun]

end Switch

/-- Why the arguments do not start a run; asking for help or for the version is a reason, too. -/
inductive UsageError where
  | unknownArgument
  | invalidValue
  | argumentConflict
  | tooManyValues
  | displayHelp
  | displayVersion
deriving DecidableEq, Repr

structure Arguments where
  values : List (ValueOption × String)
  switches : List Switch
deriving Repr

namespace Arguments

def none : Arguments := ⟨[], []⟩

def value? (a : Arguments) (o : ValueOption) : Option String := a.values.lookup o

def isSet (a : Arguments) (s : Switch) : Bool := a.switches.contains s

/-- The arguments with an option, which must be new and have a value that it takes. -/
def give (a : Arguments) (o : ValueOption) (value : String) : Except UsageError Arguments :=
  if (a.value? o).isSome then .error .argumentConflict
  else if o.accepts value then .ok { a with values := a.values ++ [(o, value)] }
  else .error .invalidValue

def turnOn (a : Arguments) (s : Switch) : Except UsageError Arguments :=
  if a.isSet s then .error .argumentConflict else .ok { a with switches := a.switches ++ [s] }

/-- The last option if its value is still open or not looked at yet. -/
abbrev Pending := Option (ValueOption × Option String)

def settle (a : Arguments) : Pending → Except UsageError Arguments
  | some (_, .none) => .error .invalidValue
  | some (o, some value) => a.give o value
  | .none => .ok a

def cutEquals (argument : String) : String × Option String :=
  match Text.split '=' argument with
  | name :: part :: parts => (name, some ("=".intercalate (part :: parts)))
  | _ => (argument, .none)

def takeLong (a : Arguments) (pending : Pending) (argument : String) :
    Except UsageError (Arguments × Pending) :=
  let (name, value) := cutEquals argument
  match ValueOption.all.find? (·.name == name), Switch.all.find? (·.name == name) with
  | some o, _ => do
    let a ← a.settle pending
    match value with
    | some value => return (← a.give o value, .none)
    | .none => return (a, some (o, .none))
  | .none, switch =>
    if switch.isNone && name != "help" && name != "version" then .error .unknownArgument
    else if value.isSome then .error .tooManyValues
    else do
      let a ← a.settle pending
      match switch with
      | some s => return (← a.turnOn s, .none)
      | .none => throw (if name == "help" then .displayHelp else .displayVersion)

def takeShort (a : Arguments) (pending : Pending) (letter : Char) :
    Except UsageError (Arguments × Pending) :=
  if letter = 'h' then a.settle pending >>= fun _ => .error .displayHelp
  else if letter = 'V' then a.settle pending >>= fun _ => .error .displayVersion
  else .error .unknownArgument

def takeValue (a : Arguments) (pending : Pending) (value : String) :
    Except UsageError (Arguments × Pending) :=
  match pending with
  | some (o, .none) => .ok (a, some (o, some value))
  | _ => .error .unknownArgument

def take (a : Arguments) (pending : Pending) (argument : String) :
    Except UsageError (Arguments × Pending) :=
  match argument.toList with
  | '-' :: '-' :: rest => a.takeLong pending (String.ofList rest)
  | '-' :: letter :: _ => a.takeShort pending letter
  | _ => a.takeValue pending argument

/-- Takes the arguments in order. Nothing may follow two lone hyphens. -/
def takeAll (a : Arguments) (pending : Pending) : List String → Except UsageError Arguments
  | [] => a.settle pending
  | argument :: rest =>
    if argument == "--" then if rest.isEmpty then a.settle pending else .error .unknownArgument
    else do
      let (a, pending) ← a.take pending argument
      a.takeAll pending rest

/-- The arguments with an option from its variable, unless it is there already. -/
def complete (environment : Environment) (a : Arguments) (o : ValueOption) :
    Except UsageError Arguments :=
  match (o.environmentName?.bind (environment.lookup ·)), a.value? o with
  | some value, .none => a.give o value
  | _, _ => .ok a

def parse (arguments : List String) (environment : Environment) : Except UsageError Arguments := do
  let a ← none.takeAll .none arguments
  ValueOption.all.foldlM (complete environment) a

end Arguments

end ExceptionStubs
