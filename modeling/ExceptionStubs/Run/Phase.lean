/-!
# Phases of a run
-/

namespace ExceptionStubs

inductive RunPhase where
  | idle
  | discovering
  | building
  | grouping
  | validating
  | emitting
  | done
deriving DecidableEq, Repr, Inhabited

def RunPhase.word : RunPhase → String
  | .idle => "idle"
  | .discovering => "discovering"
  | .building => "building"
  | .grouping => "grouping"
  | .validating => "validating"
  | .emitting => "emitting"
  | .done => "done"

end ExceptionStubs
