import ExceptionStubs.FileTree.IoFailure
/-!
# Failed discovery

Why no declarations are found. These are the only faults that end a run.
-/

namespace ExceptionStubs

inductive DiscoveryError where
  | io (path : String) (cause : IoFailure)
  | parse (origin : String)
  | unsupportedFormat (path : String)
  | source (message : String)
deriving DecidableEq, Repr

def DiscoveryError.message : DiscoveryError → String
  | .io path cause => s!"failed to read marker snapshot {path}: {cause.message}"
  | .parse origin => s!"failed to parse marker snapshot {origin}"
  | .unsupportedFormat path => s!"unsupported marker snapshot format: {path}"
  | .source message => s!"declaration source failed: {message}"

end ExceptionStubs
