import ExceptionStubs.ClassText.ClassTemplates
import ExceptionStubs.Sink.Error
/-!
# Artifacts that were not written

An artifact is skipped when its class text cannot be made or when the sink refuses it.
-/

namespace ExceptionStubs

/-- Why an artifact is skipped. The target is given by its qualified name. -/
inductive WriteFailure where
  | render (target : String) (cause : RenderError)
  | sink (target : String) (cause : SinkError)
deriving DecidableEq, Repr

namespace WriteFailure

def target : WriteFailure → String
  | .render target _ | .sink target _ => target

def message : WriteFailure → String
  | .render target cause => s!"could not render {target}: {cause.message}"
  | .sink target cause => s!"could not write {target}: {cause.message}"

end WriteFailure

end ExceptionStubs
