import ExceptionStubs.ClassText.Artifact
import ExceptionStubs.Sink.Error
/-!
# Sinks

A sink takes artifacts. For every target it hands out a writer; what was written takes effect when
the writer is finished and leaves no trace when it is abandoned. A sink keeps a state of its own,
and may refuse when a writer is opened, written to or finished.
-/

namespace ExceptionStubs

structure Sink (σ ω : Type) where
  /-- Opens a writer for a package and a class name. -/
  openTarget : String → String → σ → Except SinkError ω × σ
  /-- Writes bytes; a refusal is told by its cause. -/
  write : ByteArray → ω → σ → Except String ω × σ
  /-- Makes what was written take effect. -/
  finish : ω → σ → Except SinkError Unit × σ
  /-- Gives up what was written. -/
  abandon : ω → σ → σ
  /-- The place that a writer writes to, if it has a name. -/
  location? : ω → Option String

/-- What came of the delivery of an artifact: the place that was opened, the answer of the sink, and
its state afterwards. -/
structure Delivery (σ : Type) where
  location : Option String
  result : Except SinkError Unit
  state : σ

namespace Sink

variable {σ ω : Type}

/-- Writes chunks one after the other; the writer is given up at the first refusal. -/
def writeAll (sink : Sink σ ω) : List ByteArray → ω → σ → Except String ω × σ
  | [], writer, s => (.ok writer, s)
  | chunk :: chunks, writer, s =>
    match sink.write chunk writer s with
    | (.ok writer', s') => sink.writeAll chunks writer' s'
    | (.error cause, s') => (.error cause, sink.abandon writer s')

/-- Opens a writer, writes chunks, and finishes the writer or gives it up. -/
def stream (sink : Sink σ ω) (package name : String) (chunks : List ByteArray) (finished : Bool)
    (s : σ) : Delivery σ :=
  match sink.openTarget package name s with
  | (.error e, s') => ⟨none, .error e, s'⟩
  | (.ok writer, s') =>
    let location := sink.location? writer
    match sink.writeAll chunks writer s' with
    | (.error cause, t) => ⟨location, .error (.io (JavaName.qualify package name) cause), t⟩
    | (.ok writer', t) =>
      if finished then
        let (result, t') := sink.finish writer' t
        ⟨location, result, t'⟩
      else ⟨location, .ok (), sink.abandon writer' t⟩

def deliver (sink : Sink σ ω) (a : Artifact) (s : σ) : Delivery σ :=
  sink.stream a.package a.name [a.body.toUTF8] true s

end Sink

end ExceptionStubs
