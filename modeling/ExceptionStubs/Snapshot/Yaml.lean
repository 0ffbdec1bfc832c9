import ExceptionStubs.Snapshot.Json
import ExceptionStubs.Text.Blank
import ExceptionStubs.Yaml.Reading
/-!
# Snapshots as YAML

Records are mappings, and fields of other names mean nothing. The values in a marker are typed
before its fields are known: a text that spells a number or a truth value has to be quoted there,
and a whole number is the name of the field that it counts. A blank text is the empty snapshot.
-/

namespace ExceptionStubs

open Yaml (Document Node Reading)

def readable {α : Type} (value : Option α) : Reading α := StateT.lift value

namespace ElementKind

def ofYaml (doc : Document) (node : Node) : Reading ElementKind := do
  readable (ofWord? (← doc.word node))

end ElementKind

namespace Parameter

def ofYaml (doc : Document) (node : Node) : Reading Parameter := do
  match ← doc.record fieldNames true node with
  | [some typeName, some name] => return ⟨← doc.text typeName, ← doc.text name⟩
  | _ => failure

end Parameter

namespace Marker

def yamlDepth : Nat := 124

def fieldName? (kind : MarkerKind) : Json → Option (Option String)
  | .string name => some name
  | .number n =>
    if n.negative || !n.fraction.isEmpty || n.exponent.isSome then none
    else some (kind.fieldNames[Json.digitsValue 0 n.whole]?)
  | _ => none

/-- The type of a mapping that is a marker, and the other entries. The key of the type is the only
one that spells it. -/
def untagYaml (doc : Document) (entries : List (Node × Node)) :
    Reading (String × List (Json × Json)) := do
  let keyed ← entries.mapM fun (key, value) => return (← doc.value yamlDepth key, value)
  let isType := fun (e : Json × Node) => e.1.string? == some "type"
  match keyed.partition isType with
  | ([(_, tag)], rest) =>
    let fields ← rest.mapM fun (key, value) => return (key, ← doc.value yamlDepth value)
    return (← doc.text tag, fields)
  | _ => failure

def ofYaml (doc : Document) (node : Node) : Reading Marker := do
  match ← doc.follow node with
  | .mapping tag entries =>
    if (tag.bind Yaml.Tag.localName?).isSome then failure
    let (word, fields) ← untagYaml doc entries
    let kind ← readable (MarkerKind.ofTag? word)
    let named ← readable (fields.mapM fun (key, v) => (fieldName? kind key).map (·, v))
    let members ← readable (Json.members? kind.fieldNames (.object (named.filter (·.1.isSome))))
    readable (ofMembers? kind members)
  | .sequence tag (first :: items) =>
    if (tag.bind Yaml.Tag.localName?).isSome then failure
    let kind ← readable (MarkerKind.ofTag? (← doc.text first))
    let values ← items.mapM (doc.value yamlDepth)
    let members ← readable (Json.members? kind.fieldNames (.array values))
    readable (ofMembers? kind members)
  | _ => failure

end Marker

namespace Declaration

/-- A declaration as it is read; a package or parameters that are absent are empty. -/
def ofYaml (doc : Document) (node : Node) : Reading Declaration := do
  match ← doc.record fieldNames true node with
  | [some element, package, enclosing, some name, returnType, parameters, some marker] =>
    return {
      element := ← ElementKind.ofYaml doc element
      package := ← package.elim (return "") doc.text
      enclosing := ← doc.optional doc.text enclosing
      name := ← doc.text name
      returnType := ← doc.optional doc.text returnType
      parameters := ← parameters.elim (return []) fun node => do
        (← doc.items node).mapM (Parameter.ofYaml doc)
      marker := ← Marker.ofYaml doc marker }
  | _ => failure

end Declaration

namespace Snapshot

def ofYaml (doc : Document) : Reading Snapshot := do
  match ← doc.rootRecord fieldNames true with
  | [some declarations] => return ⟨← (← doc.items declarations).mapM (Declaration.ofYaml doc)⟩
  | [none] => return ⟨[]⟩
  | _ => failure

def ofYamlText? (text : String) : Option Snapshot :=
  if Text.isBlankText text then some ⟨[]⟩
  else (Document.ofText? text).bind fun doc => (ofYaml doc).run' 0

end Snapshot

end ExceptionStubs
