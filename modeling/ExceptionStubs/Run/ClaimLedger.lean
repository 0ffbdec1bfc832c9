import ExceptionStubs.Consistency.Conflict
import ExceptionStubs.JavaName
import ExceptionStubs.OrderedMap
/-!
# Claims on targets

Within a run every target belongs to the interface that claims it first.
-/

namespace ExceptionStubs

structure ClaimLedger where
  owners : OrderedMap String String

namespace ClaimLedger

def empty : ClaimLedger := ⟨.empty⟩

def claim (ledger : ClaimLedger) (package name owner : String) : Except Conflict ClaimLedger :=
  let target := JavaName.qualify package name
  match ledger.owners.get? target with
  | some first => .error (.duplicateTarget owner target first)
  | none => .ok ⟨ledger.owners.insert target owner⟩

def isClaimed (ledger : ClaimLedger) (package name : String) : Bool :=
  ledger.owners.contains (JavaName.qualify package name)

def size (ledger : ClaimLedger) : Nat := ledger.owners.size

def isEmpty (ledger : ClaimLedger) : Bool := ledger.owners.isEmpty

end ClaimLedger

end ExceptionStubs
