/-!
# Maps that remember the order of insertion

The view of a map is its list of entries, in the order in which their keys were first inserted.
Inserting under a present key replaces the value in its place; inserting a new key appends. No key
occurs twice, and that is part of the type.
-/

namespace ExceptionStubs

/-- Entries with distinct keys, in insertion order. -/
structure OrderedMap (κ α : Type) where
  toList : List (κ × α)
  nodup : (toList.map Prod.fst).Nodup

namespace OrderedMap

variable {κ α : Type} [DecidableEq κ]

def empty : OrderedMap κ α := ⟨[], List.nodup_nil⟩

instance : Inhabited (OrderedMap κ α) := ⟨empty⟩

def keys (m : OrderedMap κ α) : List κ := m.toList.map Prod.fst

def size (m : OrderedMap κ α) : Nat := m.toList.length

def isEmpty (m : OrderedMap κ α) : Bool := m.toList.isEmpty

def find? (key : κ) : List (κ × α) → Option α
  | [] => none
  | (k, v) :: rest => if k = key then some v else find? key rest

def get? (m : OrderedMap κ α) (key : κ) : Option α := find? key m.toList

def contains (m : OrderedMap κ α) (key : κ) : Bool := (m.get? key).isSome

/-- A list of entries with `value` under `key`, in the old place or at the end. -/
def put (key : κ) (value : α) : List (κ × α) → List (κ × α)
  | [] => [(key, value)]
  | (k, v) :: rest => if k = key then (k, value) :: rest else (k, v) :: put key value rest

theorem map_fst_put (key : κ) (value : α) (entries : List (κ × α)) :
    (put key value entries).map Prod.fst =
      if key ∈ entries.map Prod.fst then entries.map Prod.fst
      else entries.map Prod.fst ++ [key] := by
  induction entries with
  | nil => simp [put]
  | cons e rest ih =>
    obtain ⟨k, v⟩ := e
    by_cases h : k = key
    · simp [put, h]
    · simp only [put, h, if_false, List.map_cons, ih, List.mem_cons, Ne.symm h, false_or]
      split <;> rfl

def insert (m : OrderedMap κ α) (key : κ) (value : α) : OrderedMap κ α where
  toList := put key value m.toList
  nodup := by
    rw [map_fst_put]
    split
    · exact m.nodup
    · next h =>
      rw [List.nodup_append]
      exact ⟨m.nodup, by simp, fun a ha b hb hab => h (by simp_all)⟩

/-- The map with `value` under `key` unless the key is present already. -/
def insertNew (m : OrderedMap κ α) (key : κ) (value : α) : OrderedMap κ α :=
  if m.contains key then m else m.insert key value

/-- The map of a list of entries; a later entry replaces the value of an earlier one. -/
def ofList (entries : List (κ × α)) : OrderedMap κ α :=
  entries.foldl (fun m e => m.insert e.1 e.2) empty

theorem keys_insert (m : OrderedMap κ α) (key : κ) (value : α) :
    (m.insert key value).keys = if key ∈ m.keys then m.keys else m.keys ++ [key] :=
  map_fst_put key value m.toList

theorem find?_put (key key' : κ) (value : α) (entries : List (κ × α)) :
    find? key' (put key value entries) = if key = key' then some value else find? key' entries := by
  induction entries with
  | nil => simp [put, find?]
  | cons e rest ih =>
    obtain ⟨k, v⟩ := e
    by_cases h : k = key
    · subst h
      by_cases h' : k = key' <;> simp [put, find?, h']
    · by_cases h' : k = key'
      · subst h'
        simp [put, find?, h, Ne.symm h]
      · simp [put, find?, h, h', ih]

theorem get?_insert (m : OrderedMap κ α) (key key' : κ) (value : α) :
    (m.insert key value).get? key' = if key = key' then some value else m.get? key' :=
  find?_put key key' value m.toList

theorem find?_isSome_iff {key : κ} {entries : List (κ × α)} :
    (find? key entries).isSome = true ↔ key ∈ entries.map Prod.fst := by
  induction entries with
  | nil => simp [find?]
  | cons e rest ih =>
    obtain ⟨k, v⟩ := e
    by_cases h : k = key
    · simp [find?, h]
    · simp [find?, h, Ne.symm h, ih]

theorem contains_iff_mem_keys {m : OrderedMap κ α} {key : κ} :
    m.contains key = true ↔ key ∈ m.keys :=
  find?_isSome_iff

end OrderedMap

end ExceptionStubs
