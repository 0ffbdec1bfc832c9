import ExceptionStubs.Declaration
import ExceptionStubs.Json.Number
import ExceptionStubs.Json.Reader
/-!
# Snapshots as JSON

Declarations are written as objects that leave out what is absent. When they are read, every record
may also be an array of its fields in order; fields of other names mean nothing, and a known field
may not be there twice. A marker is read as a whole before its type is known, so nothing irregular
may occur in it.
-/

namespace ExceptionStubs

namespace MarkerKind

def tag : MarkerKind → String
  | .type => "exception_maker"
  | .method => "exception_runner"

def ofTag? (t : String) : Option MarkerKind := [type, method].find? (·.tag == t)

def fieldNames : MarkerKind → List String
  | .type => ["exception_names", "custom_parameter_order"]
  | .method => ["exception_type", "component_model"]

end MarkerKind

namespace ElementKind

/-- A word, or an object that holds nothing under the word. -/
def ofJson? : Json → Option ElementKind
  | .string word => word.bind ofWord?
  | .object [(some word, .null)] => ofWord? word
  | _ => none

end ElementKind

namespace Parameter

def fieldNames : List String := ["type", "name"]

def toJson (p : Parameter) : Json :=
  .ofFields [("type", .ofString p.typeName), ("name", .ofString p.name)]

def ofJson? (v : Json) : Option Parameter :=
  match v.members? fieldNames with
  | some [some typeName, some name] => do return ⟨← typeName.string?, ← name.string?⟩
  | _ => none

end Parameter

namespace Marker

def toJson (m : Marker) : Json :=
  .ofFields <| ("type", .ofString m.kind.tag) ::
    match m with
    | type m =>
      [("exception_names", .ofStrings m.exceptionNames),
        ("custom_parameter_order", .bool m.customParameterOrder)]
    | method m =>
      [("exception_type", .ofString m.exceptionType),
        ("component_model", .ofString m.componentModel)]

def ofMembers? (kind : MarkerKind) (members : List (Option Json)) : Option Marker :=
  match kind, members with
  | .type, [some names, order] => do
    return .type ⟨← names.strings?, ← order.elim (some false) Json.bool?⟩
  | .method, [some exceptionType, model] => do
    return .method ⟨← exceptionType.string?, ← model.elim (some defaultComponentModel) Json.string?⟩
  | _, _ => none

/-- The type of a marker and the record of its other fields. -/
def untag? : Json → Option (Json × Json)
  | .array (tag :: items) => some (tag, .array items)
  | .object fields =>
    match fields.partition (·.1 == some "type") with
    | ([(_, tag)], rest) => some (tag, .object rest)
    | _ => none
  | _ => none

/-- How many containers may lie within each other in a marker, it being the innermost of four. -/
def maximalDepth : Nat := 124

def ofJson? (v : Json) : Option Marker :=
  if Json.isRegular maximalDepth v then do
    let (tag, rest) ← untag? v
    let kind ← tag.string?.bind MarkerKind.ofTag?
    ofMembers? kind (← rest.members? kind.fieldNames)
  else none

end Marker

namespace Declaration

def fieldNames : List String :=
  ["element", "package", "enclosing", "name", "return_type", "parameters", "marker"]

def optionalField (name : String) (value : Option String) : List (String × Json) :=
  value.toList.map fun s => (name, .ofString s)

def toJson (d : Declaration) : Json :=
  .ofFields <|
    [("element", .ofString d.element.word), ("package", .ofString d.package)] ++
    optionalField "enclosing" d.enclosing ++ [("name", .ofString d.name)] ++
    optionalField "return_type" d.returnType ++
    (if d.parameters.isEmpty then []
      else [("parameters", .array (d.parameters.map Parameter.toJson))]) ++
    [("marker", d.marker.toJson)]

def optionalText? : Option Json → Option (Option String)
  | none | some .null => some none
  | some v => v.string?.map some

/-- A declaration as it is read; a package or parameters that are absent are empty. -/
def ofJson? (v : Json) : Option Declaration :=
  match v.members? fieldNames with
  | some [some element, package, enclosing, some name, returnType, parameters, some marker] => do
    return {
      element := ← ElementKind.ofJson? element
      package := ← package.elim (some "") Json.string?
      enclosing := ← optionalText? enclosing
      name := ← name.string?
      returnType := ← optionalText? returnType
      parameters := ← parameters.elim (some []) fun v => v.array?.bind (·.mapM Parameter.ofJson?)
      marker := ← Marker.ofJson? marker }
  | _ => none

end Declaration

namespace Snapshot

def fieldNames : List String := ["declarations"]

def toJson (s : Snapshot) : Json :=
  .ofFields [("declarations", .array (s.declarations.map Declaration.toJson))]

def ofJson? (v : Json) : Option Snapshot :=
  match v.members? fieldNames with
  | some [declarations] => do
    return ⟨← declarations.elim (some []) fun v => v.array?.bind (·.mapM Declaration.ofJson?)⟩
  | _ => none

def ofJsonText? (text : String) : Option Snapshot := (Json.ofText? text).bind ofJson?

end Snapshot

end ExceptionStubs
