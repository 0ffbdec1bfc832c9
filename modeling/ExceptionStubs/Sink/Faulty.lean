import ExceptionStubs.Sink
/-!
# Sinks with faults

A sink that fails for some targets, when they are opened, written to or finished, and delivers all
others to another sink. Nothing reaches that sink before the last moment at which this one can fail.
-/

namespace ExceptionStubs

/-- The qualified names for which a sink fails, by moment. -/
structure Faults where
  opening : List String
  writing : List String
  finishing : List String

/-- The chunks that were written for a target so far. -/
structure HeldArtifact where
  package : String
  name : String
  chunks : List ByteArray

namespace HeldArtifact

def target (held : HeldArtifact) : String := JavaName.qualify held.package held.name

end HeldArtifact

namespace Sink

variable {σ ω : Type}

/-- The sink with faults added. -/
def withFaults (sink : Sink σ ω) (faults : Faults) : Sink σ HeldArtifact where
  openTarget package name s :=
    let held : HeldArtifact := ⟨package, name, []⟩
    if faults.opening.contains held.target then (.error (.io held.target "open refused"), s)
    else (.ok held, s)
  write chunk held s :=
    if faults.writing.contains held.target then (.error "disk full", s)
    else (.ok { held with chunks := held.chunks ++ [chunk] }, s)
  finish held s :=
    if faults.finishing.contains held.target then (.error (.io held.target "finish refused"), s)
    else
      let delivery := sink.stream held.package held.name held.chunks true s
      (delivery.result, delivery.state)
  abandon _ s := s
  location? _ := none

end Sink

end ExceptionStubs
