import ExceptionStubs.Log.Line
import ExceptionStubs.Run.Phase
import ExceptionStubs.Run.Report
/-!
# Events of a run

Everything that a run tells is told by its events, in order: the diagnostics, the log and the report
are views of them.
-/

namespace ExceptionStubs

inductive RunEvent where
  | entered (previous next : RunPhase)
  | nothingMarked
  | declared (spec : ExceptionSpec)
  | recorded (record : MethodRecord)
  | rejected (fault : Malformed)
  | partitioned (exceptions groups : Nat)
  | skipped (conflict : Conflict)
  | tolerated (conflict : Conflict)
  | opened (target path : String)
  | generated (artifact : Artifact)
  | failed (failure : WriteFailure)
  | finished (report : RunReport)

namespace RunEvent

def diagnostic? : RunEvent → Option Diagnostic
  | declared spec =>
    some ⟨.note, s!"exception {spec.qualifiedName} declared by {spec.origin}"⟩
  | recorded record =>
    some ⟨.note, s!"method {record.methodName.text} of {record.owner.qualifiedInterface} throws " ++
      record.exceptionType.text⟩
  | rejected fault => some ⟨.error, fault.message⟩
  | skipped conflict | tolerated conflict => some ⟨.error, conflict.message⟩
  | generated artifact => some ⟨.note, s!"generated {artifact.qualifiedName}"⟩
  | failed failure => some ⟨.error, failure.message⟩
  | entered _ _ | nothingMarked | partitioned _ _ | opened _ _ | finished _ => none

/-- The log line of an event, apart from its diagnostic. -/
def logLine? : RunEvent → Option LogLine
  | entered previous next =>
    some (.plain .debug "run phase" [("from", previous.word), ("to", next.word)])
  | nothingMarked => some (.plain .debug "no marked declarations; nothing to generate" [])
  | declared spec =>
    some (.plain .debug "exception declared"
      [("exception", spec.qualifiedName), ("origin", spec.origin)])
  | recorded _ => none
  | rejected fault =>
    some (.plain .warn s!"skipping malformed declaration: {fault.message}"
      [("declaration", fault.declaration)])
  | partitioned exceptions groups =>
    some (.plain .debug "partitioned marked declarations"
      [("exceptions", toString exceptions), ("groups", toString groups)])
  | skipped conflict =>
    some (.plain .warn s!"skipping conflicting output: {conflict.message}"
      [("interface", conflict.interface)])
  | tolerated conflict => some (.plain .warn conflict.message [("interface", conflict.interface)])
  | opened target path =>
    some (.plain .debug "opened artifact" [("artifact", target), ("path", path)])
  | generated artifact =>
    some (.plain .info "generated artifact"
      [("artifact", artifact.qualifiedName), ("bytes", toString artifact.body.utf8ByteSize)])
  | failed failure =>
    some (.plain .warn s!"skipping artifact: {failure.message}" [("artifact", failure.target)])
  | finished report =>
    some (.plain .info "generation run finished"
      [("artifacts", toString report.artifactsWritten),
        ("conflicts", toString report.conflicts.length),
        ("write_failures", toString report.writeFailures.length),
        ("malformed", toString report.malformed.length)])

/-- The lines of an event when diagnostics are sent to the log. -/
def traced (e : RunEvent) : List LogLine :=
  e.logLine?.toList ++ (e.diagnostic?.map LogLine.ofDiagnostic).toList

def diagnostics (events : List RunEvent) : List Diagnostic := events.filterMap diagnostic?

def generated? : RunEvent → Option Artifact
  | generated artifact => some artifact
  | _ => none

def skipped? : RunEvent → Option Conflict
  | skipped conflict => some conflict
  | _ => none

def failed? : RunEvent → Option WriteFailure
  | failed failure => some failure
  | _ => none

def rejected? : RunEvent → Option Malformed
  | rejected fault => some fault
  | _ => none

end RunEvent

namespace RunReport

def ofEvents (fingerprint : String) (events : List RunEvent) : RunReport where
  claimed := true
  dryRun := false
  artifacts := (events.filterMap RunEvent.generated?).map ArtifactRecord.ofArtifact
  conflicts := events.filterMap RunEvent.skipped?
  writeFailures := events.filterMap RunEvent.failed?
  malformed := events.filterMap RunEvent.rejected?
  inputFingerprint := some fingerprint

end RunReport

end ExceptionStubs
