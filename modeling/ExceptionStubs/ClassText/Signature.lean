import ExceptionStubs.Declaration
/-!
# Parameter lists in source text

A method declares its parameters with their types and forwards them by name, both in declared
order. The lists are put together from the parameters and never taken apart again, so a type may
hold commas and spaces.
-/

namespace ExceptionStubs

structure Signature where
  declList : String
  argList : String
deriving DecidableEq, Repr

namespace Signature

/-- The lists of a row of parameters; without parameters both are empty. -/
def ofParameters (ps : List Parameter) : Signature where
  declList := ",".intercalate (ps.map fun p => p.typeName ++ " " ++ p.name)
  argList := ",".intercalate (ps.map Parameter.name)

end Signature

end ExceptionStubs
