import ExceptionStubs.JavaName
import ExceptionStubs.Text.LowerCase
/-!
# Component models

An implementation is registered as a component when its component model is the configured one.
Models are compared without regard to case.
-/

namespace ExceptionStubs

/-- Two component models are the same up to case. -/
def sameComponentModel (a b : String) : Bool :=
  a == b || Text.lowerCase a == Text.lowerCase b

structure ComponentSettings where
  modelMarker : String
  annotationType : String
deriving DecidableEq, Repr

namespace ComponentSettings

def defaultAnnotation : String := "org.springframework.stereotype.Component"

def defaultModel : String := "spring"

instance : Inhabited ComponentSettings := ⟨⟨defaultModel, defaultAnnotation⟩⟩

def appliesTo (c : ComponentSettings) (model : String) : Bool :=
  sameComponentModel model c.modelMarker

def simpleName (c : ComponentSettings) : String := JavaName.simpleName c.annotationType

/-- The annotation as it is imported; one without a dot needs no import. -/
def importName? (c : ComponentSettings) : Option String :=
  if '.' ∈ c.annotationType.toList then some c.annotationType else none

end ComponentSettings

end ExceptionStubs
