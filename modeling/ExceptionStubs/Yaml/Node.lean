import ExceptionStubs.Yaml.Event
/-!
# YAML documents

A document is a tree of nodes. A node with an anchor can be referred to; anchors are numbered by how
many different names there were before, so a name that is used again may share its number with the
next new one, and a number refers to the last node that has it.
-/

namespace ExceptionStubs.Yaml

inductive Node where
  | reference (anchor : Nat)
  | scalar (tag : Option Tag) (style : ScalarStyle) (text : String)
  | sequence (tag : Option Tag) (items : List Node)
  | mapping (tag : Option Tag) (entries : List (Node × Node))
deriving Inhabited

/-- A document: its root unless it is empty, the nodes behind the anchors, and the number of its
events. -/
structure Document where
  root : Option Node
  anchors : List (Nat × Node)
  size : Nat

namespace Document

/-- An open sequence or mapping: its properties, where it started, and its items or the keys and
values of its entries, last first. -/
inductive Frame where
  | sequence (tag : Option Tag) (anchor : Option Nat) (start : Nat) (items : List Node)
  | mapping (tag : Option Tag) (anchor : Option Nat) (start : Nat) (nodes : List Node)

/-- What was read so far: the names of the anchors with their numbers, the nodes behind the numbers
with the places where they started, the open collections, and the number of events. -/
structure Builder where
  names : List (String × Nat)
  anchored : List (Nat × Nat × Node)
  frames : List Frame
  root : Option Node
  count : Nat

namespace Builder

def start : Builder := ⟨[], [], [], none, 0⟩

/-- The entries of a mapping from its keys and values, last first, in front of further entries. -/
def entriesOnto (entries : List (Node × Node)) : List Node → List (Node × Node)
  | value :: key :: rest => entriesOnto ((key, value) :: entries) rest
  | _ => entries

def number (anchor : Option String) (b : Builder) : Option Nat × Builder :=
  match anchor with
  | none => (none, b)
  | some name =>
    let n := b.names.length
    (some n, { b with names := (name, n) :: b.names.filter (·.1 != name) })

def remember (anchor : Option Nat) (start : Nat) (node : Node) (b : Builder) : Builder :=
  match anchor with
  | none => b
  | some n =>
    match b.anchored.lookup n with
    | some (other, _) =>
      if start < other then b
      else { b with anchored := (n, start, node) :: b.anchored }
    | none => { b with anchored := (n, start, node) :: b.anchored }

def place (node : Node) (b : Builder) : Builder :=
  match b.frames with
  | [] => { b with root := some node }
  | .sequence tag anchor start items :: frames =>
    { b with frames := .sequence tag anchor start (node :: items) :: frames }
  | .mapping tag anchor start nodes :: frames =>
    { b with frames := .mapping tag anchor start (node :: nodes) :: frames }

def close (b : Builder) : Builder :=
  match b.frames with
  | [] => b
  | .sequence tag anchor start items :: frames =>
    let node := Node.sequence tag items.reverse
    ({ b with frames := frames }.remember anchor start node).place node
  | .mapping tag anchor start nodes :: frames =>
    let node := Node.mapping tag (entriesOnto [] nodes)
    ({ b with frames := frames }.remember anchor start node).place node

/-- Takes in an event; a reference needs a name that was given before. -/
def add? (e : Event) (b : Builder) : Option Builder :=
  let next := { b with count := b.count + 1 }
  match e with
  | .reference name => (b.names.lookup name).map fun n => next.place (.reference n)
  | .scalar p style text =>
    let (anchor, next) := next.number p.anchor
    let node := Node.scalar p.tag style text
    some ((next.remember anchor b.count node).place node)
  | .sequenceStart p =>
    let (anchor, next) := next.number p.anchor
    some { next with frames := .sequence p.tag anchor b.count [] :: next.frames }
  | .mappingStart p =>
    let (anchor, next) := next.number p.anchor
    some { next with frames := .mapping p.tag anchor b.count [] :: next.frames }
  | .sequenceEnd | .mappingEnd => some next.close

end Builder

def ofEvents? (events : List Event) : Option Document := do
  let b ← events.foldlM (fun b e => b.add? e) Builder.start
  return ⟨b.root, b.anchored.map fun (n, _, node) => (n, node), b.count⟩

def ofText? (s : String) : Option Document := do
  ofEvents? (← Event.ofTokens? (← Token.ofText? s))

end Document

end ExceptionStubs.Yaml
