import ExceptionStubs.FileTree.IoFailure
/-!
# Refused artifacts

Why a sink does not take an artifact. Every cause names the target by its qualified name.
-/

namespace ExceptionStubs

inductive SinkError where
  | alreadyExists (target : String)
  | invalidTarget (target reason : String)
  | io (target cause : String)
deriving DecidableEq, Repr

def SinkError.message : SinkError → String
  | .alreadyExists target => s!"{target} already exists"
  | .invalidTarget target reason => s!"invalid target {target}: {reason}"
  | .io target cause => s!"I/O error on {target}: {cause}"

end ExceptionStubs
