import ExceptionStubs.OrderedMap
/-!
# Inserting entries

An entry that is inserted takes the place of the one under its key, or comes behind all others. What
a map holds after entries with distinct keys are inserted one after the other: the new keys come
behind the old ones in the order of their entries, and every other key keeps its value. What is
under a key is what the entries say, in whatever order they stand. A second insertion of the same
entries finds everything in place.
-/

namespace ExceptionStubs

namespace OrderedMap

variable {κ α : Type} [DecidableEq κ]

def insertAll (m : OrderedMap κ α) (entries : List (κ × α)) : OrderedMap κ α :=
  entries.foldl (fun m e => m.insert e.1 e.2) m

@[simp] theorem insertAll_nil (m : OrderedMap κ α) : m.insertAll [] = m := rfl

@[simp] theorem insertAll_cons (m : OrderedMap κ α) (e : κ × α) (entries : List (κ × α)) :
    m.insertAll (e :: entries) = (m.insert e.1 e.2).insertAll entries := rfl

theorem insertAll_append (m : OrderedMap κ α) (entries later : List (κ × α)) :
    m.insertAll (entries ++ later) = (m.insertAll entries).insertAll later :=
  List.foldl_append

theorem mem_keys_insert {m : OrderedMap κ α} {key key' : κ} {value : α} :
    key' ∈ (m.insert key value).keys ↔ key' = key ∨ key' ∈ m.keys := by
  rw [keys_insert]
  by_cases h : key ∈ m.keys
  · simp only [h, if_true]
    constructor
    · exact .inr
    · rintro (rfl | mem)
      · exact h
      · exact mem
  · simp [h, or_comm]

/-- A new entry is looked up behind those that are there. -/
theorem get?_insertNew (m : OrderedMap κ α) (key key' : κ) (value : α) :
    (m.insertNew key value).get? key' =
      (m.get? key').or (if key = key' then some value else none) := by
  unfold insertNew contains
  cases held : m.get? key with
  | none =>
    rw [if_neg (by simp), get?_insert]
    by_cases h : key = key'
    · subst h
      simp [held]
    · simp [h]
  | some old =>
    rw [if_pos (by simp)]
    by_cases h : key = key'
    · subst h
      simp [held]
    · simp [h]

theorem find?_eq_some_iff {entries : List (κ × α)} (distinct : (entries.map Prod.fst).Nodup)
    {key : κ} {value : α} : find? key entries = some value ↔ (key, value) ∈ entries := by
  induction entries with
  | nil => simp [find?]
  | cons e rest ih =>
    obtain ⟨k, v⟩ := e
    rw [List.map_cons, List.nodup_cons] at distinct
    by_cases h : k = key
    · subst h
      have absent : (k, value) ∉ rest := fun mem => distinct.1 (List.mem_map.2 ⟨_, mem, rfl⟩)
      simp [find?, absent, eq_comm]
    · simp [find?, h, Ne.symm h, ih distinct.2]

theorem get?_eq_some_iff {m : OrderedMap κ α} {key : κ} {value : α} :
    m.get? key = some value ↔ (key, value) ∈ m.toList :=
  find?_eq_some_iff m.nodup

/-- The order of the entries makes no difference to what is under a key. -/
theorem get?_eq_of_perm {m m' : OrderedMap κ α} (h : m.toList.Perm m'.toList) (key : κ) :
    m.get? key = m'.get? key := by
  apply Option.ext
  intro value
  rw [get?_eq_some_iff, get?_eq_some_iff, h.mem_iff]

theorem get?_insertAll_of_notMem {entries : List (κ × α)} {key : κ}
    (h : key ∉ entries.map Prod.fst) (m : OrderedMap κ α) :
    (m.insertAll entries).get? key = m.get? key := by
  induction entries generalizing m with
  | nil => rfl
  | cons e rest ih =>
    simp only [List.map_cons, List.mem_cons, not_or] at h
    rw [insertAll_cons, ih h.2, get?_insert, if_neg (Ne.symm h.1)]

theorem get?_insertAll_of_mem {entries : List (κ × α)} (distinct : (entries.map Prod.fst).Nodup)
    {e : κ × α} (h : e ∈ entries) (m : OrderedMap κ α) :
    (m.insertAll entries).get? e.1 = some e.2 := by
  induction entries generalizing m with
  | nil => simp at h
  | cons first rest ih =>
    rw [List.map_cons, List.nodup_cons] at distinct
    rcases List.mem_cons.1 h with rfl | tail
    · rw [insertAll_cons, get?_insertAll_of_notMem distinct.1, get?_insert, if_pos rfl]
    · rw [insertAll_cons, ih distinct.2 tail]

theorem keys_insertAll {entries : List (κ × α)} (distinct : (entries.map Prod.fst).Nodup)
    (m : OrderedMap κ α) :
    (m.insertAll entries).keys = m.keys ++ (entries.map Prod.fst).filter (· ∉ m.keys) := by
  induction entries generalizing m with
  | nil => simp
  | cons e rest ih =>
    rw [List.map_cons, List.nodup_cons] at distinct
    -- The keys behind `e` differ from it, so its insertion decides about none of them.
    have others : (rest.map Prod.fst).filter (· ∉ (m.insert e.1 e.2).keys) =
        (rest.map Prod.fst).filter (· ∉ m.keys) := by
      apply List.filter_congr
      intro key mem
      have ne : key ≠ e.1 := by
        rintro rfl
        exact distinct.1 mem
      simp [mem_keys_insert, ne]
    rw [insertAll_cons, ih distinct.2, others, keys_insert, List.map_cons, List.filter_cons]
    by_cases h : e.1 ∈ m.keys <;> simp [h]

theorem put_of_notMem {key : κ} {value : α} {entries : List (κ × α)}
    (h : key ∉ entries.map Prod.fst) : put key value entries = entries ++ [(key, value)] := by
  induction entries with
  | nil => rfl
  | cons e rest ih =>
    simp only [List.map_cons, List.mem_cons, not_or] at h
    simp [put, Ne.symm h.1, ih h.2]

theorem put_append_cons {key : κ} {before : List (κ × α)} (h : key ∉ before.map Prod.fst)
    (old value : α) (after : List (κ × α)) :
    put key value (before ++ (key, old) :: after) = before ++ (key, value) :: after := by
  induction before with
  | nil => simp [put]
  | cons e rest ih =>
    simp only [List.map_cons, List.mem_cons, not_or] at h
    simp [put, Ne.symm h.1, ih h.2]

/-- The second map differs from the first one in the value under one key. An old key keeps its
place, and a new one comes behind all others. -/
def Binds (m : OrderedMap κ α) (key : κ) (value : α) (m' : OrderedMap κ α) : Prop :=
  (∃ before old after, m.toList = before ++ (key, old) :: after ∧
      m'.toList = before ++ (key, value) :: after) ∨
    (key ∉ m.keys ∧ m'.toList = m.toList ++ [(key, value)])

theorem binds_insert (m : OrderedMap κ α) (key : κ) (value : α) :
    m.Binds key value (m.insert key value) := by
  by_cases held : key ∈ m.keys
  · obtain ⟨⟨_, old⟩, mem, rfl⟩ := List.mem_map.1 held
    obtain ⟨before, after, parts⟩ := List.append_of_mem mem
    have distinct := m.nodup
    rw [parts, List.map_append, List.map_cons, List.nodup_append] at distinct
    obtain ⟨-, -, apart⟩ := distinct
    have first : _ ∉ before.map Prod.fst := fun mem => apart _ mem _ List.mem_cons_self rfl
    have replaced := put_append_cons first old value after
    rw [← parts] at replaced
    exact .inl ⟨before, old, after, parts, replaced⟩
  · exact .inr ⟨held, put_of_notMem held⟩

theorem put_of_find? {key : κ} {value : α} {entries : List (κ × α)}
    (h : find? key entries = some value) : put key value entries = entries := by
  induction entries with
  | nil => cases h
  | cons first rest ih =>
    obtain ⟨k, v⟩ := first
    by_cases same : k = key
    · simp only [find?, same, if_true, Option.some.injEq] at h
      simp [put, same, h]
    · simp only [find?, same, if_false] at h
      simp [put, same, ih h]

/-- Inserting what is held already changes nothing. -/
theorem insert_of_get? {m : OrderedMap κ α} {key : κ} {value : α} (h : m.get? key = some value) :
    m.insert key value = m := by
  obtain ⟨entries, nodup⟩ := m
  simp [insert, put_of_find? h]

theorem insertAll_of_get? {m : OrderedMap κ α} {entries : List (κ × α)}
    (held : ∀ e ∈ entries, m.get? e.1 = some e.2) : m.insertAll entries = m := by
  induction entries with
  | nil => rfl
  | cons e rest ih =>
    have first : m.insert e.1 e.2 = m := insert_of_get? (held e List.mem_cons_self)
    rw [insertAll_cons, first]
    exact ih fun e' mem => held e' (List.mem_cons_of_mem _ mem)

/-- Inserting the same entries a second time changes nothing, not even their order. -/
theorem insertAll_insertAll {entries : List (κ × α)} (distinct : (entries.map Prod.fst).Nodup)
    (m : OrderedMap κ α) : (m.insertAll entries).insertAll entries = m.insertAll entries :=
  insertAll_of_get? fun _ mem => get?_insertAll_of_mem distinct mem m

/-- What is held stays held. -/
theorem contains_insertAll {entries : List (κ × α)} {m : OrderedMap κ α} {key : κ}
    (h : m.contains key = true) : (m.insertAll entries).contains key = true := by
  induction entries generalizing m with
  | nil => exact h
  | cons e rest ih =>
    apply ih
    rw [contains_iff_mem_keys] at h ⊢
    exact mem_keys_insert.2 (.inr h)

/-- Entries under new and distinct keys are appended. -/
theorem toList_insertAll {entries : List (κ × α)} {m : OrderedMap κ α}
    (distinct : (m.keys ++ entries.map Prod.fst).Nodup) :
    (m.insertAll entries).toList = m.toList ++ entries := by
  induction entries generalizing m with
  | nil => simp
  | cons e rest ih =>
    have new : e.1 ∉ m.keys := fun mem =>
      (List.nodup_append.1 distinct).2.2 e.1 mem e.1 (by simp) rfl
    have entry : (m.insert e.1 e.2).toList = m.toList ++ [e] := put_of_notMem new
    have keys : (m.insert e.1 e.2).keys = m.keys ++ [e.1] := by rw [keys_insert, if_neg new]
    rw [insertAll_cons, ih (by simpa [keys] using distinct), entry]
    simp

end OrderedMap

end ExceptionStubs
