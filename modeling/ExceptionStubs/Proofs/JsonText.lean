import ExceptionStubs.Proofs.JsonToken
/-!
# Written values read back

A value that is made of texts and truth values by arrays and objects is read back from either way of
writing it. The tokens of an item or a field are read as one more item or field of the innermost
open container, whatever is open around it.
-/

namespace ExceptionStubs.Json

inductive Expected.TakesValue : Expected → Prop where
  | value : TakesValue .value
  | valueOrEnd : TakesValue .valueOrEnd

def proceed? (v : Json) (frames : List Frame) (tokens : List Token) : Option Json :=
  match place v frames with
  | .inl v => if tokens.isEmpty then some v else none
  | .inr frames => ofTokens? .separator frames tokens

/-- Tokens that are read as a value, whatever is open. -/
def Parses (ts : List Token) (v : Json) : Prop :=
  ∀ expected : Expected, expected.TakesValue → ∀ frames us,
    ofTokens? expected frames (ts ++ us) = proceed? v frames us

theorem parses_string (text : Option String) : Parses [.scalar (.string text)] (.string text) := by
  rintro _ (_ | _) frames us <;> rfl

theorem parses_bool (b : Bool) : Parses [.scalar (.bool b)] (.bool b) := by
  rintro _ (_ | _) frames us <;> rfl

/-- A kind of container of entries that is read between an opening and a closing token. -/
structure Container (α : Type) where
  opening : Token
  closing : Token
  frame : List α → Frame
  first : Expected
  later : Expected
  value : List α → Json
  opened : ∀ expected : Expected, expected.TakesValue → ∀ frames us,
    ofTokens? expected frames (opening :: us) = ofTokens? first (frame [] :: frames) us
  separated : ∀ entries frames us, ofTokens? .separator (frame entries :: frames) (.comma :: us) =
    ofTokens? later (frame entries :: frames) us
  closed : ∀ entries frames us, ofTokens? .separator (frame entries :: frames) (closing :: us) =
    proceed? (value entries.reverse) frames us
  empty : ∀ frames us, ofTokens? first (frame [] :: frames) (closing :: us) =
    proceed? (value []) frames us

namespace Container

def items : Container Json where
  opening := .beginArray
  closing := .endArray
  frame := .array
  first := .valueOrEnd
  later := .value
  value := .array
  opened := by rintro _ (_ | _) frames us <;> rfl
  separated _ _ _ := rfl
  closed _ _ _ := rfl
  empty _ _ := rfl

def fields : Container (Option String × Json) where
  opening := .beginObject
  closing := .endObject
  frame fields := .object fields none
  first := .nameOrEnd
  later := .name
  value := .object
  opened := by rintro _ (_ | _) frames us <;> rfl
  separated _ _ _ := rfl
  closed _ _ _ := rfl
  empty _ _ := rfl

variable {α : Type} (c : Container α)

def Parses (ts : List Token) (entries : List α) : Prop :=
  ∀ expected, expected = c.first ∨ expected = c.later → ∀ before frames us,
    ofTokens? expected (c.frame before :: frames) (ts ++ us) =
      ofTokens? .separator (c.frame (entries.reverse ++ before) :: frames) us

variable {c}

theorem Parses.cons {ts us : List Token} {entry : α} {entries : List α}
    (first : c.Parses ts [entry]) (later : c.Parses us entries) :
    c.Parses (ts ++ .comma :: us) (entry :: entries) := by
  intro expected here before frames rest
  rw [List.append_assoc, first expected here, List.cons_append, c.separated,
    later c.later (.inr rfl)]
  simp

/-- Entries between their tokens are read as the container. -/
theorem Parses.between {ts : List Token} {entries : List α} (h : c.Parses ts entries) :
    Json.Parses (c.opening :: (ts ++ [c.closing])) (c.value entries) := by
  intro expected takes frames us
  rw [List.cons_append, c.opened expected takes, List.append_assoc, h c.first (.inl rfl),
    List.singleton_append, c.closed, List.append_nil, List.reverse_reverse]

theorem parses_empty : Json.Parses [c.opening, c.closing] (c.value []) := by
  intro expected takes frames us
  rw [List.cons_append, c.opened expected takes, List.singleton_append, c.empty]

theorem parses_item {ts : List Token} {v : Json} (h : Json.Parses ts v) : items.Parses ts [v] := by
  rintro _ (rfl | rfl) before frames us
  · exact h .valueOrEnd .valueOrEnd (.array before :: frames) us
  · exact h .value .value (.array before :: frames) us

theorem parses_field {ts : List Token} {v : Json} (name : Option String) (h : Json.Parses ts v) :
    fields.Parses (.scalar (.string name) :: .colon :: ts) [(name, v)] := by
  intro expected here before frames us
  have named : ofTokens? expected (.object before none :: frames)
        (.scalar (.string name) :: .colon :: ts ++ us) =
      ofTokens? .value (.object before name :: frames) (ts ++ us) := by
    obtain rfl | rfl := here <;> rfl
  exact named.trans (h .value .value (.object before name :: frames) us)

end Container

/-- A text that is read as a value, whatever stands around it. -/
def Spells (cs : List Char) (v : Json) : Prop := ∃ ts, Token.Reads cs ts ∧ Parses ts v

theorem Spells.ofText? {cs : List Char} {v : Json} (h : Spells cs v) :
    ofText? (String.ofList cs) = some v := by
  obtain ⟨ts, reads, parses⟩ := h
  have whole := parses .value .value [] []
  rw [List.append_nil] at whole
  rw [Json.ofText?, String.toList_ofList, reads.ofText?, Option.bind_some, whole]
  rfl

theorem Spells.behind {bs cs : List Char} {v : Json} (blanks : Token.Reads bs [])
    (h : Spells cs v) : Spells (bs ++ cs) v := by
  obtain ⟨ts, reads, parses⟩ := h
  exact ⟨ts, blanks.append reads, parses⟩

namespace Container

variable {α : Type} {c : Container α}

def Spells (c : Container α) (cs : List Char) (entries : List α) : Prop :=
  ∃ ts, Token.Reads cs ts ∧ c.Parses ts entries

theorem Spells.behind {bs cs : List Char} {entries : List α} (blanks : Token.Reads bs [])
    (h : c.Spells cs entries) : c.Spells (bs ++ cs) entries := by
  obtain ⟨ts, reads, parses⟩ := h
  exact ⟨ts, blanks.append reads, parses⟩

theorem Spells.before {bs cs : List Char} {entries : List α} (h : c.Spells cs entries)
    (blanks : Token.Reads bs []) : c.Spells (cs ++ bs) entries := by
  obtain ⟨ts, reads, parses⟩ := h
  exact ⟨ts, by simpa using reads.append blanks, parses⟩

theorem spells_item {cs : List Char} {v : Json} (h : Json.Spells cs v) : items.Spells cs [v] := by
  obtain ⟨ts, reads, parses⟩ := h
  exact ⟨ts, reads, parses_item parses⟩

theorem spells_field {cs : List Char} {v : Json} (name : String) (h : Json.Spells cs v) :
    fields.Spells (writeText (some name) ++ ':' :: cs) [(some name, v)] := by
  obtain ⟨ts, reads, parses⟩ := h
  exact ⟨_, (Token.Reads.writeText name).append (Token.Reads.colon.append reads),
    parses_field (some name) parses⟩

/-- Entries with commas between them. -/
theorem spells_intercalate {text : α → List Char} {entries : List α} (nonempty : entries ≠ [])
    (h : ∀ entry ∈ entries, c.Spells (text entry) [entry]) :
    c.Spells ([','].intercalate (entries.map text)) entries := by
  induction entries with
  | nil => exact absurd rfl nonempty
  | cons entry entries ih =>
    have first := h entry List.mem_cons_self
    cases entries with
    | nil => simpa using first
    | cons next entries =>
      obtain ⟨ts, reads, parses⟩ := first
      obtain ⟨us, reads', parses'⟩ := ih (List.cons_ne_nil next entries)
        fun other mem => h other (List.mem_cons_of_mem entry mem)
      rw [List.map_cons, List.map_cons, List.intercalate_cons_cons]
      refine ⟨_, ?_, parses.cons parses'⟩
      simpa using reads.append (Token.Reads.comma.append reads')

/-- Entries between brackets. -/
theorem Spells.between {cs : List Char} {entries : List α} {opening closing : Char}
    (h : c.Spells cs entries) (opens : Token.Reads [opening] [c.opening])
    (closes : Token.Reads [closing] [c.closing]) :
    Json.Spells (opening :: (cs ++ [closing])) (c.value entries) := by
  obtain ⟨ts, reads, parses⟩ := h
  exact ⟨_, opens.append (reads.append closes), parses.between⟩

theorem Spells.array {cs : List Char} {vs : List Json} (h : items.Spells cs vs) :
    Json.Spells ('[' :: (cs ++ [']'])) (.array vs) :=
  h.between Token.Reads.beginArray Token.Reads.endArray

theorem Spells.object {cs : List Char} {fs : List (Option String × Json)}
    (h : fields.Spells cs fs) : Json.Spells ('\x7b' :: (cs ++ ['\x7d'])) (.object fs) :=
  h.between Token.Reads.beginObject Token.Reads.endObject

theorem spells_empty {opening closing : Char} (opens : Token.Reads [opening] [c.opening])
    (closes : Token.Reads [closing] [c.closing]) : Json.Spells [opening, closing] (c.value []) :=
  ⟨_, opens.append closes, parses_empty⟩

end Container

theorem writeItems_eq_intercalate (vs : List Json) :
    writeItems vs = [','].intercalate (vs.map write) := by
  induction vs with
  | nil => rfl
  | cons v vs ih =>
    cases vs with
    | nil => simp [writeItems]
    | cons w vs => simp [writeItems, ih, List.intercalate_cons_cons]

theorem indentedItems_eq_intercalate (depth : Nat) (vs : List Json) :
    indentedItems depth vs =
      [','].intercalate (vs.map fun v => newline depth ++ writeIndented depth v) := by
  induction vs with
  | nil => rfl
  | cons v vs ih =>
    cases vs with
    | nil => simp [indentedItems]
    | cons w vs => simp [indentedItems, ih, List.intercalate_cons_cons]

theorem writeFields_eq_intercalate (fs : List (Option String × Json)) :
    writeFields fs = [','].intercalate (fs.map fun f => writeText f.1 ++ ':' :: write f.2) := by
  induction fs with
  | nil => rfl
  | cons f fs ih =>
    cases fs with
    | nil => simp [writeFields]
    | cons g fs => simp [writeFields, ih, List.intercalate_cons_cons]

theorem indentedFields_eq_intercalate (depth : Nat) (fs : List (Option String × Json)) :
    indentedFields depth fs =
      [','].intercalate (fs.map fun f =>
        newline depth ++ (writeText f.1 ++ ':' :: ([' '] ++ writeIndented depth f.2))) := by
  induction fs with
  | nil => rfl
  | cons f fs ih =>
    cases fs with
    | nil => simp [indentedFields]
    | cons g fs => simp [indentedFields, ih, List.intercalate_cons_cons]

structure IsReadBack (v : Json) : Prop where
  line : Spells (write v) v
  lines : ∀ depth, Spells (writeIndented depth v) v

theorem isReadBack_ofString (s : String) : IsReadBack (ofString s) := by
  have spelled : Spells (writeText (some s)) (ofString s) :=
    ⟨_, Token.Reads.writeText s, parses_string (some s)⟩
  exact ⟨spelled, fun _ => spelled⟩

theorem isReadBack_bool (b : Bool) : IsReadBack (bool b) := by
  have spelled : Spells (write (bool b)) (bool b) := ⟨_, Token.Reads.bool b, parses_bool b⟩
  exact ⟨spelled, fun _ => spelled⟩

theorem isReadBack_array {vs : List Json} (h : ∀ v ∈ vs, IsReadBack v) : IsReadBack (array vs) := by
  cases vs with
  | nil =>
    have spelled : Spells ['[', ']'] (array []) :=
      Container.spells_empty (c := .items) Token.Reads.beginArray Token.Reads.endArray
    exact ⟨spelled, fun _ => spelled⟩
  | cons v vs =>
    constructor
    · rw [write, writeItems_eq_intercalate]
      refine Container.Spells.array ?_
      refine Container.spells_intercalate (List.cons_ne_nil v vs) fun w mem => ?_
      exact Container.spells_item (h w mem).line
    · intro depth
      rw [writeIndented, indentedItems_eq_intercalate]
      refine Container.Spells.array ?_
      refine .before ?_ (Token.Reads.newline depth)
      refine Container.spells_intercalate (List.cons_ne_nil v vs) fun w mem => ?_
      exact Container.spells_item (((h w mem).lines _).behind (Token.Reads.newline _))

theorem isReadBack_object {fs : List (Option String × Json)}
    (h : ∀ f ∈ fs, ∃ name, f.1 = some name ∧ IsReadBack f.2) : IsReadBack (object fs) := by
  cases fs with
  | nil =>
    have spelled : Spells ['\x7b', '\x7d'] (object []) :=
      Container.spells_empty (c := .fields) Token.Reads.beginObject Token.Reads.endObject
    exact ⟨spelled, fun _ => spelled⟩
  | cons f fs =>
    constructor
    · rw [write, writeFields_eq_intercalate]
      refine Container.Spells.object ?_
      refine Container.spells_intercalate (List.cons_ne_nil f fs) ?_
      rintro ⟨_, v⟩ mem
      obtain ⟨name, rfl, readBack⟩ := h _ mem
      exact Container.spells_field name readBack.line
    · intro depth
      rw [writeIndented, indentedFields_eq_intercalate]
      refine Container.Spells.object ?_
      refine .before ?_ (Token.Reads.newline depth)
      refine Container.spells_intercalate (List.cons_ne_nil f fs) ?_
      rintro ⟨_, v⟩ mem
      obtain ⟨name, rfl, readBack⟩ := h _ mem
      refine .behind (Token.Reads.newline _) ?_
      exact Container.spells_field name ((readBack.lines _).behind (.blank rfl))

theorem isReadBack_ofFields {fs : List (String × Json)} (h : ∀ f ∈ fs, IsReadBack f.2) :
    IsReadBack (ofFields fs) := by
  apply isReadBack_object
  intro f mem
  obtain ⟨⟨name, v⟩, inside, rfl⟩ := List.mem_map.1 mem
  exact ⟨name, rfl, h (name, v) inside⟩

/-- The text of a value in one line, or over several lines, stands for the value. -/
theorem IsReadBack.ofText? {v : Json} (h : IsReadBack v) :
    ofText? v.render = some v ∧ ofText? v.renderIndented = some v :=
  ⟨h.line.ofText?, (h.lines 0).ofText?⟩

end ExceptionStubs.Json
