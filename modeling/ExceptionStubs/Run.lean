import ExceptionStubs.Run.Plan
import ExceptionStubs.Sink
import ExceptionStubs.Snapshot.File
/-!
# Runs

A run asks a source for the marked declarations and carries out the plan over a sink. A fault in a
declaration, a conflict or a refusal of the sink skips one thing and is told; only a source that
fails ends the run.
-/

namespace ExceptionStubs

variable {σ ω : Type}

/-- What a run leaves: its result, what it told, the phase it is in and the state of the sink. -/
structure RunOutcome (σ : Type) where
  result : Except DiscoveryError RunReport
  events : List RunEvent
  phase : RunPhase
  state : σ

namespace Run

/-- A phase that is entered is told unless the run is in it already. -/
def enter (current next : RunPhase) : List RunEvent :=
  if current = next then [] else [.entered current next]

def attempt (sink : Sink σ ω) (target : String) (rendered : Except RenderError Artifact) (s : σ) :
    List RunEvent × σ :=
  match rendered with
  | .error cause => ([.failed (.render target cause)], s)
  | .ok artifact =>
    let delivery := sink.deliver artifact s
    let opened := delivery.location.toList.map (.opened artifact.qualifiedName)
    match delivery.result with
    | .error cause => (opened ++ [.failed (.sink target cause)], delivery.state)
    | .ok () => (opened ++ [.generated artifact], delivery.state)

def execute (sink : Sink σ ω) : List Step → RunPhase → σ → List RunEvent × RunPhase × σ
  | [], phase, s => ([], phase, s)
  | .enter next :: steps, phase, s =>
    let (events, phase', s') := execute sink steps next s
    (enter phase next ++ events, phase', s')
  | .tell event :: steps, phase, s =>
    let (events, phase', s') := execute sink steps phase s
    (event :: events, phase', s')
  | .attempt target rendered :: steps, phase, s =>
    let (first, s') := attempt sink target rendered s
    let (events, phase', s'') := execute sink steps phase s'
    (first ++ events, phase', s'')

def discover (source : DeclarationSource) :
    Except DiscoveryError (List Declaration × List Declaration) := do
  let types ← source .type
  let methods ← source .method
  return (types, methods)

end Run

/-- A run from a phase on, with a header for the case that the options ask for one. -/
def run (source : DeclarationSource) (options : GenerationOptions) (header : MetadataHeader)
    (sink : Sink σ ω) (phase : RunPhase) (s : σ) : RunOutcome σ :=
  let start := Run.enter phase .discovering
  match Run.discover source with
  | .error e => ⟨.error e, start, .discovering, s⟩
  | .ok ([], []) =>
    ⟨.ok .unclaimed, start ++ [.nothingMarked, .entered .discovering .done], .done, s⟩
  | .ok (types, methods) =>
    let steps := Plan.steps options (options.header? header) types methods
    let (events, phase', s') := Run.execute sink steps .discovering s
    let report := RunReport.ofEvents (Plan.fingerprint types methods) events
    ⟨.ok report, start ++ events ++ [.finished report], phase', s'⟩

/-- What a generator keeps from one run to the next: its phase, and the header that the next run
uses instead of one with the current time. -/
structure Generator where
  phase : RunPhase
  header : Option MetadataHeader

namespace Generator

def start (header : Option MetadataHeader) : Generator := ⟨.idle, header⟩

/-- One more run at a time. The header is used up by the first run that finds something. -/
def run (g : Generator) (source : DeclarationSource) (options : GenerationOptions)
    (now : Timestamp) (sink : Sink σ ω) (s : σ) : RunOutcome σ × Generator :=
  let outcome := ExceptionStubs.run source options (g.header.getD ⟨now⟩) sink g.phase s
  let usedUp :=
    match outcome.result with
    | .ok report => report.claimed
    | .error _ => false
  (outcome, ⟨outcome.phase, if usedUp then none else g.header⟩)

end Generator

end ExceptionStubs
