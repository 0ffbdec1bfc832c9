import ExceptionStubs.ClassText.ExceptionClass
import ExceptionStubs.ClassText.Implementation
import ExceptionStubs.Consistency
import ExceptionStubs.Run.Build
import ExceptionStubs.Run.ClaimLedger
import ExceptionStubs.Run.Event
/-!
# The plan of a run

What a run does is fixed by the declarations, the options and the header before anything is written:
first every exception is attempted whose target is free, then the implementation of every group that
passes its checks and whose target is free. How the sink answers changes nothing in the plan.
-/

namespace ExceptionStubs

structure GenerationOptions where
  metadataHeader : Bool
  consistencyCheck : Bool
  shapePolicy : ShapePolicy
  component : ComponentSettings
deriving DecidableEq, Repr

namespace GenerationOptions

/-- Everything is checked strictly and stamped. -/
def standard : GenerationOptions := ⟨true, true, .strict, default⟩

instance : Inhabited GenerationOptions := ⟨standard⟩

def checks (o : GenerationOptions) (specs : List ExceptionSpec) : ConsistencyChecks where
  componentModel := o.consistencyCheck
  shapes := if o.shapePolicy = .off then none else some (.ofSpecs specs, o.shapePolicy)

def header? (o : GenerationOptions) (header : MetadataHeader) : Option MetadataHeader :=
  if o.metadataHeader then some header else none

end GenerationOptions

/-- A step of a run: a phase is entered, something is told, or an artifact is attempted. -/
inductive Step where
  | enter (phase : RunPhase)
  | tell (event : RunEvent)
  | attempt (target : String) (rendered : Except RenderError Artifact)

namespace Plan

/-- The attempts of the exceptions whose targets are free, and the ledger with their claims. -/
def exceptionSteps (header : Option MetadataHeader) (ledger : ClaimLedger) :
    List ExceptionSpec → List Step × ClaimLedger
  | [] => ([], ledger)
  | s :: specs =>
    match ledger.claim s.package s.name s.origin with
    | .error conflict =>
      let (steps, ledger) := exceptionSteps header ledger specs
      (.tell (.skipped conflict) :: steps, ledger)
    | .ok ledger =>
      let (steps, ledger) := exceptionSteps header ledger specs
      (.attempt s.qualifiedName (s.artifact s.package header) :: steps, ledger)

def emissionStep (settings : ComponentSettings) (header : Option MetadataHeader)
    (ledger : ClaimLedger) (v : ValidatedGroup) : Step × ClaimLedger :=
  let g := v.group
  match ledger.claim g.package g.implementationName g.qualifiedInterface with
  | .error conflict => (.tell (.skipped conflict), ledger)
  | .ok ledger =>
    (.attempt (JavaName.qualify g.package g.implementationName) (v.artifact settings header),
      ledger)

def groupSteps (checks : ConsistencyChecks) (settings : ComponentSettings)
    (header : Option MetadataHeader) (ledger : ClaimLedger) : List Group → List Step
  | [] => []
  | g :: groups =>
    .enter .validating ::
      match g.validate checks with
      | .error conflict =>
        .tell (.skipped conflict) :: groupSteps checks settings header ledger groups
      | .ok v =>
        let (step, ledger) := emissionStep settings header ledger v
        v.warnings.map (.tell <| .tolerated ·) ++
          .enter .emitting :: step :: groupSteps checks settings header ledger groups

def buildEvents (types methods : List Declaration) : List RunEvent :=
  Build.describe .declared .rejected (types.map Declaration.specs) ++
    Build.describe .recorded .rejected (methods.map Declaration.records)

def steps (options : GenerationOptions) (header : Option MetadataHeader)
    (types methods : List Declaration) : List Step :=
  let specs := Build.accepted (types.map Declaration.specs)
  let groups := Group.ofRecords (Build.accepted (methods.map Declaration.records))
  let (exceptions, ledger) := exceptionSteps header .empty specs
  .enter .building :: (buildEvents types methods).map .tell ++
    [.enter .grouping, .tell (.partitioned specs.length groups.length), .enter .emitting] ++
    exceptions ++ groupSteps (options.checks specs) options.component header ledger groups ++
    [.enter .done]

def fingerprint (types methods : List Declaration) : String :=
  Fingerprint.ofInput (Build.accepted (types.map Declaration.specs))
    (Build.accepted (methods.map Declaration.records))

end Plan

end ExceptionStubs
