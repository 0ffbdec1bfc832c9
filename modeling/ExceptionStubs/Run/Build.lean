import ExceptionStubs.ExceptionSpec
import ExceptionStubs.MethodRecord
/-!
# Specs and records of declarations

Every marked declaration either contributes all its specs or its record, or is rejected for the
first fault that is found in it. What is accepted and what is rejected keep the order of the
declarations.
-/

namespace ExceptionStubs

namespace Declaration

def expectElement (d : Declaration) (expected : ElementKind) : Except Malformed Unit :=
  if d.element = expected then .ok ()
  else .error (.misplacedMarker d.displayName d.element expected)

/-- The specs of a marked interface; there are none where no type is marked. -/
def specs (d : Declaration) : Except Malformed (List ExceptionSpec) :=
  match d.marker with
  | .type marker => do
    d.expectElement .interfaceType
    ExceptionSpec.ofMarker d (← d.scope) marker
  | .method _ => .ok []

def records (d : Declaration) : Except Malformed (List MethodRecord) :=
  match d.marker with
  | .method marker => do
    d.expectElement .method
    return [← MethodRecord.ofDeclaration d (← d.scope) marker]
  | .type _ => .ok []

end Declaration

namespace Build

variable {α β : Type}

def accepted (results : List (Except Malformed (List α))) : List α :=
  results.flatMap fun
    | .ok xs => xs
    | .error _ => []

def rejected (results : List (Except Malformed (List α))) : List Malformed :=
  results.filterMap fun
    | .ok _ => none
    | .error fault => some fault

/-- What there is to say about each result, in order. -/
def describe (onAccepted : α → β) (onRejected : Malformed → β)
    (results : List (Except Malformed (List α))) : List β :=
  results.flatMap fun
    | .ok xs => xs.map onAccepted
    | .error fault => [onRejected fault]

end Build

end ExceptionStubs
