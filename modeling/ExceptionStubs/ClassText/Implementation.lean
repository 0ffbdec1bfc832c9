import ExceptionStubs.ClassText.ExceptionClass
import ExceptionStubs.ClassText.Signature
import ExceptionStubs.Consistency
/-!
# Implementations

The class that implements an interface with methods that throw. Every thrown exception is imported
and named simply, unless its simple name is taken in the class or stands for several exceptions;
then it is written with its package.
-/

namespace ExceptionStubs

namespace ValidatedGroup

/-- The annotation on the class, if the component model of the group asks for one. -/
def component? (v : ValidatedGroup) (settings : ComponentSettings) : Option String :=
  if settings.appliesTo v.componentModel then some settings.simpleName else none

/-- The simple names that already mean something in the class. -/
def takenNames (v : ValidatedGroup) (settings : ComponentSettings) : List String :=
  v.group.interface :: v.group.implementationName :: (v.component? settings).toList

/-- Two records of the group throw exceptions of this simple name from different packages. -/
def hasSeveralPackages (g : Group) (name : String) : Bool :=
  match g.records.map MethodRecord.exceptionTarget |>.filter (·.2 == name) with
  | [] => false
  | target :: targets => targets.any (·.1 != target.1)

def throwsQualified (v : ValidatedGroup) (settings : ComponentSettings) (r : MethodRecord) : Bool :=
  let name := r.exceptionTarget.2
  (v.takenNames settings).contains name || hasSeveralPackages v.group name

def thrownName (v : ValidatedGroup) (settings : ComponentSettings) (r : MethodRecord) : String :=
  let (package, name) := r.exceptionTarget
  if v.throwsQualified settings r then JavaName.qualify package name else name

/-- The import that the exception of a record needs. Exceptions of the default package need none. -/
def exceptionImport? (v : ValidatedGroup) (settings : ComponentSettings) (r : MethodRecord) :
    Option String :=
  let (package, name) := r.exceptionTarget
  if v.throwsQualified settings r || package.isEmpty then none
  else some (JavaName.qualify package name)

def componentImport? (v : ValidatedGroup) (settings : ComponentSettings) : Option String :=
  (v.component? settings).bind fun _ => settings.importName?

/-- The imports in the order of their first use, the annotation last. -/
def imports (v : ValidatedGroup) (settings : ComponentSettings) : List String :=
  (v.group.records.filterMap (v.exceptionImport? settings) ++
    (v.componentImport? settings).toList).eraseDups

def methodValue (v : ValidatedGroup) (settings : ComponentSettings) (r : MethodRecord) :
    TemplateValue :=
  let signature := Signature.ofParameters r.parameters.toList
  .record
    [("return_type", .text r.returnType), ("name", .text r.methodName.text),
      ("decl_list", .text signature.declList), ("exception", .text (v.thrownName settings r)),
      ("arg_list", .text signature.argList)]

def context (v : ValidatedGroup) (settings : ComponentSettings) (header : Option MetadataHeader) :
    TemplateContext :=
  [("package", .text v.group.package),
    ("imports", .list ((v.imports settings).map .text)),
    ("generated", .text (MetadataHeader.line header v.group.package)),
    ("component", .text ((v.component? settings).getD "")),
    ("class_name", .text v.group.implementationName),
    ("interface_name", .text v.group.interface),
    ("methods", .list (v.group.records.map (v.methodValue settings)))]

def artifact (v : ValidatedGroup) (settings : ComponentSettings) (header : Option MetadataHeader) :
    Except RenderError Artifact := do
  let body ← ClassTemplates.render ClassTemplates.implementationName (v.context settings header)
  return ⟨v.group.package, v.group.implementationName, body⟩

end ValidatedGroup

end ExceptionStubs
