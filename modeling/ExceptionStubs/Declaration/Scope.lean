import ExceptionStubs.Declaration.Malformed
import ExceptionStubs.Text.Blank
/-!
# Owning scopes

The package and the type that a declaration belongs to. A type belongs to itself; a member without
a type around it belongs nowhere.
-/

namespace ExceptionStubs

structure Scope where
  package : String
  typeName : String
deriving DecidableEq, Repr

namespace Declaration

def scope (d : Declaration) : Except Malformed Scope :=
  match d.owner with
  | some owner =>
    if Text.isBlankText owner then .error (.unresolvedScope d.displayName)
    else .ok ⟨d.package, owner⟩
  | none => .error (.unresolvedScope d.displayName)

end Declaration

end ExceptionStubs
