import ExceptionStubs.Declaration.Scope
import ExceptionStubs.Declaration.Validation
/-!
# Method records

The checked facts about one marked method. Names are kept in their checked types, so that what is
generated from a record needs no further check.
-/

namespace ExceptionStubs

structure GroupKey where
  package : PackageName
  interface : Identifier
deriving DecidableEq

def GroupKey.qualifiedInterface (k : GroupKey) : String :=
  JavaName.qualify k.package.text k.interface.text

/-- One marked method with its owner and the exception that its stub throws. -/
structure MethodRecord where
  owner : GroupKey
  methodName : Identifier
  returnType : String
  parameters : ParameterList
  exceptionType : QualifiedName
  componentModel : String
deriving DecidableEq

namespace MethodRecord

/-- A component model as it is stored: without blanks at its ends, the default one if blank. -/
def normalizeModel (model : String) : String :=
  if Text.isBlankText model then defaultComponentModel else Text.trim model

/-- The record of a method declaration within a scope. The first fault in the order of the checks
is the one reported. -/
def ofDeclaration (d : Declaration) (scope : Scope) (marker : MethodMarker) :
    Except Malformed MethodRecord := do
  let display := d.displayName
  let package ← Validation.packageName display scope.package
  let interface ← Validation.identifier display "interface name" scope.typeName
  let methodName ← Validation.identifier display "method name" d.name
  let returnType ← Validation.nonEmpty display "return type" (d.returnType.getD "")
  let parameters ← Validation.parameters display d.parameters
  let exceptionType ← Validation.qualifiedName display "exception type" marker.exceptionType
  return {
    owner := ⟨package, interface⟩
    methodName := methodName
    returnType := Text.trim returnType
    parameters := parameters
    exceptionType := exceptionType
    componentModel := normalizeModel marker.componentModel }

/-- The package and simple name of the thrown exception. A simple name means the exception of the
owning package. -/
def exceptionTarget (r : MethodRecord) : String × String :=
  (JavaName.unqualify? r.exceptionType.text).getD (r.owner.package.text, r.exceptionType.text)

end MethodRecord

end ExceptionStubs
