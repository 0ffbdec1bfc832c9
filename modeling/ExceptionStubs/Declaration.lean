import ExceptionStubs.JavaName
/-!
# Marked declarations

A snapshot lists the declarations of a code base that carry a marker. A marker on a type names the
exceptions to generate beside it, a marker on a method the exception its stub throws.
-/

namespace ExceptionStubs

inductive ElementKind where
  | interfaceType
  | classType
  | enumType
  | recordType
  | annotationType
  | method
  | constructor
  | field
deriving DecidableEq, Repr, Inhabited

namespace ElementKind

def word : ElementKind → String
  | .interfaceType => "interface"
  | .classType => "class"
  | .enumType => "enum"
  | .recordType => "record"
  | .annotationType => "annotation"
  | .method => "method"
  | .constructor => "constructor"
  | .field => "field"

def all : List ElementKind :=
  [.interfaceType, .classType, .enumType, .recordType, .annotationType, .method, .constructor,
    .field]

def ofWord? (w : String) : Option ElementKind := all.find? (·.word == w)

theorem ofWord?_word (k : ElementKind) : ofWord? k.word = some k := by
  cases k <;> rfl

/-- Types own themselves; all other elements are members of a type. -/
def isType : ElementKind → Bool
  | .interfaceType | .classType | .enumType | .recordType | .annotationType => true
  | .method | .constructor | .field => false

end ElementKind

structure Parameter where
  typeName : String
  name : String
deriving DecidableEq, Repr, Inhabited

inductive MarkerKind where
  | type
  | method
deriving DecidableEq, Repr

def MarkerKind.word : MarkerKind → String
  | .type => "type"
  | .method => "method"

/-- The exceptions to generate beside a type. -/
structure TypeMarker where
  exceptionNames : List String
  customParameterOrder : Bool
deriving DecidableEq, Repr

/-- The component model of a method whose marker sets none. -/
def defaultComponentModel : String := "default"

structure MethodMarker where
  exceptionType : String
  componentModel : String
deriving DecidableEq, Repr

inductive Marker where
  | type (marker : TypeMarker)
  | method (marker : MethodMarker)
deriving DecidableEq, Repr

def Marker.kind : Marker → MarkerKind
  | .type _ => .type
  | .method _ => .method

/-- A declaration that carries a marker. Members name the type around them. -/
structure Declaration where
  element : ElementKind
  package : String
  enclosing : Option String
  name : String
  returnType : Option String
  parameters : List Parameter
  marker : Marker
deriving DecidableEq, Repr

namespace Declaration

/-- The name of a declaration in messages: a member stands behind its type and a number sign. -/
def displayName (d : Declaration) : String :=
  match d.enclosing with
  | some owner => JavaName.qualify d.package owner ++ "#" ++ d.name
  | none => JavaName.qualify d.package d.name

/-- The type that owns a declaration: the declared type itself, or the one around a member. -/
def owner (d : Declaration) : Option String :=
  if d.element.isType then some d.name else d.enclosing

end Declaration

/-- All marked declarations, in a stable order. -/
structure Snapshot where
  declarations : List Declaration
deriving DecidableEq, Repr, Inhabited

namespace Snapshot

def marked (s : Snapshot) (kind : MarkerKind) : List Declaration :=
  s.declarations.filter (·.marker.kind = kind)

end Snapshot

end ExceptionStubs
