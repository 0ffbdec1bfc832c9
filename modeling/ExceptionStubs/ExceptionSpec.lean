import ExceptionStubs.Declaration.Scope
import ExceptionStubs.Declaration.Validation
import ExceptionStubs.OrderedMap
/-!
# Exception specs

What to generate for an exception that a marked interface names, and the catalog that tells the
constructor shape of a generated exception. The first spec of a name decides.
-/

namespace ExceptionStubs

/-- The constructors of a generated exception: a message with or without an array of parameters,
or parameters alone. -/
inductive ExceptionMode where
  | standard
  | variadic
deriving DecidableEq, Repr

namespace ExceptionMode

def word : ExceptionMode → String
  | .standard => "standard"
  | .variadic => "variadic"

/-- A custom parameter order asks for the variadic constructor. -/
def ofCustomOrder (custom : Bool) : ExceptionMode := if custom then .variadic else .standard

end ExceptionMode

/-- An exception to generate in the package of the interface that names it. -/
structure ExceptionSpec where
  name : String
  mode : ExceptionMode
  package : String
  originInterface : String
deriving DecidableEq, Repr

namespace ExceptionSpec

def qualifiedName (s : ExceptionSpec) : String := JavaName.qualify s.package s.name

/-- The qualified name of the interface that names the exception. -/
def origin (s : ExceptionSpec) : String := JavaName.qualify s.package s.originInterface

/-- One spec for every name of a type marker, or the first fault and no spec at all. -/
def ofMarker (d : Declaration) (scope : Scope) (marker : TypeMarker) :
    Except Malformed (List ExceptionSpec) := do
  let display := d.displayName
  let package ← Validation.packageName display scope.package
  let interface ← Validation.identifier display "interface name" scope.typeName
  if marker.exceptionNames.isEmpty then throw (.emptyField display "exception_names")
  marker.exceptionNames.mapM fun name => do
    let name ← Validation.identifier display "exception name" name
    return {
      name := name.text
      mode := .ofCustomOrder marker.customParameterOrder
      package := package.text
      originInterface := interface.text }

end ExceptionSpec

structure ExceptionCatalog where
  modes : OrderedMap (String × String) ExceptionMode
deriving Inhabited

namespace ExceptionCatalog

/-- The catalog of a list of specs; the first spec of a package and name decides its mode. -/
def ofSpecs (specs : List ExceptionSpec) : ExceptionCatalog :=
  ⟨specs.foldl (fun modes s => modes.insertNew (s.package, s.name) s.mode) .empty⟩

def modeOf? (c : ExceptionCatalog) (package name : String) : Option ExceptionMode :=
  c.modes.get? (package, name)

def size (c : ExceptionCatalog) : Nat := c.modes.size

def isEmpty (c : ExceptionCatalog) : Bool := c.modes.isEmpty

end ExceptionCatalog

end ExceptionStubs
