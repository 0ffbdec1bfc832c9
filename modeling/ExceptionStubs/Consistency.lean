import ExceptionStubs.Consistency.Component
import ExceptionStubs.Consistency.Conflict
import ExceptionStubs.ExceptionSpec
import ExceptionStubs.Group
/-!
# Consistency of a group

All methods of an interface have to name the same component model, and the arguments that a stub
forwards have to fit a constructor of the exception it throws. A group that passes is handed on
with its component model and the mismatches that were tolerated.
-/

namespace ExceptionStubs

/-- What becomes of arguments that no constructor of a standard exception takes: the group is
skipped, the mismatch is only reported, or there is no check. -/
inductive ShapePolicy where
  | strict
  | warn
  | off
deriving DecidableEq, Repr, Inhabited

namespace ShapePolicy

def word : ShapePolicy → String
  | .strict => "strict"
  | .warn => "warn"
  | .off => "off"

def ofWord? (w : String) : Option ShapePolicy :=
  [strict, warn, off].find? (·.word == w)

end ShapePolicy

def isStringType (typeName : String) : Bool :=
  ["String", "java.lang.String"].contains (Text.trim typeName)

/-- The type is that of an array of objects, blanks aside. -/
def isObjectArrayType (typeName : String) : Bool :=
  ["Object[]", "Object...", "java.lang.Object[]", "java.lang.Object..."].contains
    (Text.withoutBlanks typeName)

def fitsStandard : List Parameter → Bool
  | [message] => isStringType message.typeName
  | [message, params] => isStringType message.typeName && isObjectArrayType params.typeName
  | _ => false

structure ValidatedGroup where
  group : Group
  warnings : List Conflict

namespace ValidatedGroup

/-- The component model of the group is that of its first member. -/
def componentModel (v : ValidatedGroup) : String := v.group.first.componentModel

end ValidatedGroup

/-- Which checks are made, and against which catalog. Without a catalog, shapes are not checked. -/
structure ConsistencyChecks where
  componentModel : Bool
  shapes : Option (ExceptionCatalog × ShapePolicy)

/-- The exception of a record is declared, is a standard one and does not take the arguments. -/
def MethodRecord.hasShapeMismatch (catalog : ExceptionCatalog) (r : MethodRecord) : Bool :=
  let (package, name) := r.exceptionTarget
  catalog.modeOf? package name == some .standard && !fitsStandard r.parameters.toList

namespace Group

/-- The conflict with the first member whose component model differs from that of the group. -/
def modelConflict? (g : Group) : Option Conflict :=
  (g.rest.find? fun r => !sameComponentModel r.componentModel g.first.componentModel).map fun r =>
    .componentModelMismatch g.qualifiedInterface r.methodName.text g.first.componentModel
      r.componentModel

def shapeConflict (g : Group) (r : MethodRecord) : Conflict :=
  .constructorShape g.qualifiedInterface r.methodName.text r.exceptionType.text
    (", ".intercalate (r.parameters.toList.map Parameter.typeName))

def shapeConflicts (g : Group) (catalog : ExceptionCatalog) : List Conflict :=
  (g.records.filter (·.hasShapeMismatch catalog)).map g.shapeConflict

def checkShapes (g : Group) : Option (ExceptionCatalog × ShapePolicy) →
    Except Conflict ValidatedGroup
  | none | some (_, .off) => .ok ⟨g, []⟩
  | some (catalog, .warn) => .ok ⟨g, g.shapeConflicts catalog⟩
  | some (catalog, .strict) =>
    match g.shapeConflicts catalog with
    | [] => .ok ⟨g, []⟩
    | conflict :: _ => .error conflict

/-- The group as it passes the checks; the component model comes before the shapes. -/
def validate (g : Group) (checks : ConsistencyChecks) : Except Conflict ValidatedGroup :=
  match if checks.componentModel then g.modelConflict? else none with
  | some conflict => .error conflict
  | none => g.checkShapes checks.shapes

end Group

end ExceptionStubs
