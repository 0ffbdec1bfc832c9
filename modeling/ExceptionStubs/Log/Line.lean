import ExceptionStubs.Run.Diagnostic
/-!
# Log lines

A line of the log has a level, a message and named fields. Diagnostics can be sent to the log as
well; they are marked there.
-/

namespace ExceptionStubs

inductive LogLevel where
  | debug
  | info
  | warn
  | error
deriving DecidableEq, Repr

def LogLevel.word : LogLevel → String
  | .debug => "debug"
  | .info => "info"
  | .warn => "warn"
  | .error => "error"

structure LogLine where
  level : LogLevel
  isDiagnostic : Bool
  message : String
  fields : List (String × String)
deriving DecidableEq, Repr

namespace LogLine

def plain (level : LogLevel) (message : String) (fields : List (String × String)) : LogLine :=
  ⟨level, false, message, fields⟩

def ofDiagnostic (d : Diagnostic) : LogLine where
  level :=
    match d.level with
    | .note => .info
    | .error => .error
  isDiagnostic := true
  message := d.message
  fields := []

/-- Only debug lines are left out of the log. -/
def isShown (l : LogLine) : Bool := l.level != .debug

end LogLine

end ExceptionStubs
