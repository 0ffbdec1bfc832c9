/-!
# Diagnostics

What the user is told while classes are generated: notes on what was found and made, and errors for
what was skipped.
-/

namespace ExceptionStubs

inductive DiagnosticLevel where
  | note
  | error
deriving DecidableEq, Repr

def DiagnosticLevel.word : DiagnosticLevel → String
  | .note => "note"
  | .error => "error"

structure Diagnostic where
  level : DiagnosticLevel
  message : String
deriving DecidableEq, Repr

end ExceptionStubs
