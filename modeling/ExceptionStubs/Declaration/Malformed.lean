import ExceptionStubs.Declaration
/-!
# Malformed declarations

Why a marked declaration cannot be used. Every cause names the declaration by its display name.
-/

namespace ExceptionStubs

/-- A declaration or marker that lacks something or holds something invalid. -/
inductive Malformed where
  | emptyField (declaration field : String)
  | invalidName (declaration kind value : String)
  | misplacedMarker (declaration : String) (found expected : ElementKind)
  | unresolvedScope (declaration : String)
  | duplicateParameter (declaration name : String)
deriving DecidableEq, Repr

namespace Malformed

def declaration : Malformed → String
  | .emptyField d _ | .invalidName d _ _ | .misplacedMarker d _ _ | .unresolvedScope d
  | .duplicateParameter d _ => d

def message : Malformed → String
  | .emptyField d field => s!"{d}: {field} must not be empty"
  | .invalidName d kind value => s!"{d}: '{value}' is not a valid {kind}"
  | .misplacedMarker d found expected =>
    s!"{d}: marker placed on {found.word} declaration, expected {expected.word}"
  | .unresolvedScope d => s!"{d}: owning type could not be resolved"
  | .duplicateParameter d name => s!"{d}: parameter name '{name}' is declared more than once"

end Malformed

end ExceptionStubs
