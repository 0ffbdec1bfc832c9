import ExceptionStubs.ClassText.Artifact
import ExceptionStubs.ClassText.ClassTemplates
import ExceptionStubs.ClassText.MetadataHeader
import ExceptionStubs.ExceptionSpec
/-!
# Exception classes

The class of an exception spec. Only exceptions with a message carry the metadata header.
-/

namespace ExceptionStubs

namespace ExceptionSpec

def templateName (s : ExceptionSpec) : String :=
  match s.mode with
  | .standard => ClassTemplates.standardName
  | .variadic => ClassTemplates.variadicName

def context (s : ExceptionSpec) (targetPackage : String) (header : Option MetadataHeader) :
    TemplateContext :=
  [("package", .text targetPackage), ("name", .text s.name)] ++
    match s.mode with
    | .standard => [("generated", .text (MetadataHeader.line header s.package))]
    | .variadic => []

def artifact (s : ExceptionSpec) (targetPackage : String) (header : Option MetadataHeader) :
    Except RenderError Artifact := do
  let body ← ClassTemplates.render s.templateName (s.context targetPackage header)
  return ⟨targetPackage, s.name, body⟩

end ExceptionSpec

end ExceptionStubs
