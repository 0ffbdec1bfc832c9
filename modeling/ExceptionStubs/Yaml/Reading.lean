import ExceptionStubs.Yaml.CoreScalar
import ExceptionStubs.Yaml.Node
/-!
# Reading values from YAML documents

What a node means depends on what is asked for. Texts are taken as they are written; an absent value
is an empty list or record; a word may also be given as a local tag. References are followed where
a value is looked at, and only so often that a small document does not stand for an endless one.
-/

namespace ExceptionStubs.Yaml

abbrev Reading := StateT Nat Option

namespace Document

def maximalReuse : Nat := 100

/-- The node that a reference refers to; every other node is itself. -/
def follow (doc : Document) : Node → Reading Node
  | .reference n => do
    let jumps ← get
    if maximalReuse * doc.size ≤ jumps then failure
    set (jumps + 1)
    match doc.anchors.lookup n with
    | some node => return node
    | none => failure
  | node => return node

def isAbsent : Node → Bool
  | .scalar _ .plain text => text.isEmpty
  | _ => false

def text (doc : Document) (node : Node) : Reading String := do
  match ← doc.follow node with
  | .scalar _ _ text => return text
  | _ => failure

def bool (doc : Document) (node : Node) : Reading Bool := do
  match ← doc.follow node with
  | .scalar tag style text =>
    if style = .plain ∨ (style = .literal ∧ tag = some (.core "bool")) then
      match CoreScalar.bool? text with
      | some b => return b
      | none => failure
    else failure
  | _ => failure

def items (doc : Document) (node : Node) : Reading (List Node) := do
  match ← doc.follow node with
  | .sequence _ items => return items
  | node => if isAbsent node then return [] else failure

/-- A node that is not null; a quoted scalar never is. -/
def present (doc : Document) (node : Node) : Reading (Option Node) := do
  let node ← doc.follow node
  match node with
  | .scalar tag .plain text =>
    match tag with
    | none => return if text.isEmpty || CoreScalar.isNull text then none else some node
    | some t =>
      if t ≠ .core "null" then return some node
      else if CoreScalar.isNull text then return none
      else failure
  | _ => return some node

def optional {α : Type} (doc : Document) (read : Node → Reading α) :
    Option Node → Reading (Option α)
  | none => return none
  | some node => do
    match ← doc.present node with
    | none => return none
    | some node => return some (← read node)

/-- A word: the characters of a scalar, or a local tag on a plain scalar without a value. -/
def word (doc : Document) (node : Node) : Reading String := do
  match ← doc.follow node with
  | .scalar tag style text =>
    match tag.bind Tag.localName? with
    | none => return text
    | some name =>
      if style = .plain ∧ (text.isEmpty ∨ CoreScalar.isNull text) then return name else failure
  | _ => failure

/-- The values of the named fields among the entries of a mapping; none of them may be there twice,
and there may be others only if that is allowed. -/
def fields (doc : Document) (names : List String) (others : Bool) (entries : List (Node × Node)) :
    Reading (List (Option Node)) := do
  let entries ← entries.mapM fun (key, value) => return (← doc.text key, value)
  if !others && entries.any fun e => !names.contains e.1 then failure
  names.mapM fun name =>
    match entries.filter (·.1 == name) with
    | [] => return none
    | [(_, value)] => return some value
    | _ => failure

def record (doc : Document) (names : List String) (others : Bool) (node : Node) :
    Reading (List (Option Node)) := do
  match ← doc.follow node with
  | .mapping _ entries => doc.fields names others entries
  | node => if isAbsent node then return names.map fun _ => none else failure

def rootRecord (doc : Document) (names : List String) (others : Bool) :
    Reading (List (Option Node)) :=
  match doc.root with
  | none => return names.map fun _ => none
  | some node => doc.record names others node

/-- A typed value with at most `depth` collections within each other. A local tag has no type, and
whole numbers beyond 64 bits are refused. -/
def value (doc : Document) : Nat → Node → Reading Json
  | depth, node => do
    match ← doc.follow node, depth with
    | .scalar tag style text, _ =>
      if (tag.bind Tag.localName?).isSome then failure
      match CoreScalar.ofScalar? tag style text with
      | some .null => return .null
      | some (.bool b) => return .bool b
      | some (.natural n) => return .ofNat n
      | some (.negative n) => return .number ⟨true, Nat.toDigits 10 n, [], none⟩
      | some (.float (some digits)) => return .number digits
      | some (.float none) => return .null
      | some (.text s) => return .ofString s
      | some .wide | none => failure
    | .sequence tag items, depth + 1 =>
      if (tag.bind Tag.localName?).isSome then failure
      return .array (← items.mapM (doc.value depth))
    | .mapping tag entries, depth + 1 =>
      if (tag.bind Tag.localName?).isSome then failure
      return .object (← entries.mapM fun (key, value) => do
        return ((← doc.value depth key).string?, ← doc.value depth value))
    | _, _ => failure

end Document

end ExceptionStubs.Yaml
