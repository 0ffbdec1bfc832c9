/-!
# JSON values

A value keeps its numbers as they are written and its fields in order. A text that holds half of a
surrogate pair is no text; it is kept as `none`, so that it matters only where it is looked at.
-/

namespace ExceptionStubs

/-- A number as it is written: sign, digits before and behind the point, and the exponent with its
own sign. -/
structure JsonNumber where
  negative : Bool
  whole : List Char
  fraction : List Char
  exponent : Option (Bool × List Char)
deriving DecidableEq, Repr

inductive Json where
  | null
  | bool (b : Bool)
  | number (n : JsonNumber)
  | string (text : Option String)
  | array (items : List Json)
  | object (fields : List (Option String × Json))
deriving Repr

namespace Json

def ofString (s : String) : Json := string (some s)

def ofNat (n : Nat) : Json := number ⟨false, Nat.toDigits 10 n, [], none⟩

def ofStrings (ss : List String) : Json := array (ss.map ofString)

def ofFields (fields : List (String × Json)) : Json :=
  object (fields.map fun (name, v) => (some name, v))

def string? : Json → Option String
  | string text => text
  | _ => none

def bool? : Json → Option Bool
  | bool b => some b
  | _ => none

def array? : Json → Option (List Json)
  | array items => some items
  | _ => none

def strings? (v : Json) : Option (List String) := v.array?.bind (·.mapM string?)

def fields? : Json → Option (List (String × Json))
  | object fields => fields.mapM fun (name, v) => name.map (·, v)
  | _ => none

/-- The value of a field that may be absent; `none` if the field is there more than once. -/
def member? (fields : List (String × Json)) (name : String) : Option (Option Json) :=
  match fields.filter (·.1 == name) with
  | [] => some none
  | [(_, v)] => some (some v)
  | _ => none

/-- The values of the named fields of a record, which may be written as an object or as the array of
its values in order. -/
def members? (names : List String) : Json → Option (List (Option Json))
  | array items =>
    if items.length ≤ names.length then
      some (items.map some ++ List.replicate (names.length - items.length) none)
    else none
  | v => v.fields?.bind fun fields => names.mapM (member? fields)

end Json

end ExceptionStubs
