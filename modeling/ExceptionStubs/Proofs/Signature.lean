import ExceptionStubs.ClassText.Signature
import ExceptionStubs.Proofs.Faults
import Mathlib.Data.List.Forall2
import Mathlib.Data.List.Infix
/-!
# Reading signatures back

Names hold no commas and no spaces, so the argument list of a signature tells the names of the
parameters. Types are free text. As long as each of them closes the angle brackets that it opens and
keeps its commas inside of them, the commas that are outside stand between the parameters, and the
declaration list tells the types and the names.
-/

namespace ExceptionStubs

namespace Text

/-- How many angle brackets are open behind a character, if `depth` are open in front of it. One
that closes nothing changes nothing. -/
def anglesBehind (depth : Nat) (c : Char) : Nat :=
  if c = '<' then depth + 1 else if c = '>' then depth - 1 else depth

/-- The pieces between the commas outside angle brackets, if `depth` are open in front. -/
def splitOuterChars (depth : Nat) : List Char → List (List Char)
  | [] => [[]]
  | c :: cs =>
    if c = ',' ∧ depth = 0 then [] :: splitOuterChars 0 cs
    else (splitOuterChars (anglesBehind depth c) cs).modifyHead (c :: ·)

/-- The pieces of a text between the commas outside angle brackets. -/
def splitOuter (s : String) : List String := (splitOuterChars 0 s.toList).map String.ofList

/-- A text behind `depth` open angle brackets that closes them and its own, nowhere closes more than
are open, and has its commas inside of them. -/
structure ClosesAngles (depth : Nat) (cs : List Char) : Prop where
  opened : ∀ front, front <+: cs → front.count '>' ≤ depth + front.count '<'
  closed : cs.count '>' = depth + cs.count '<'
  commas : ∀ front, front ++ [','] <+: cs → front.count '>' < depth + front.count '<'

section Angles

variable {depth : Nat} {c : Char} {cs ds : List Char}

theorem closesAngles_nil_iff : ClosesAngles depth [] ↔ depth = 0 := by
  constructor
  · intro h
    simpa [eq_comm] using h.closed
  · rintro rfl
    constructor <;> simp

theorem ClosesAngles.tail (h : ClosesAngles depth (c :: cs)) :
    ClosesAngles (anglesBehind depth c) cs := by
  have closed := h.closed
  -- a bracket that the first character closes was open, so nothing is lost in `depth - 1`
  have first := h.opened [c] (by simp)
  constructor
  · intro front start
    have longer := h.opened (c :: front) (by simpa using start)
    grind [anglesBehind]
  · grind [anglesBehind]
  · intro front start
    have longer := h.commas (c :: front) (by simpa using start)
    grind [anglesBehind]

theorem ClosesAngles.cons (inner : c = ',' ∨ c = '>' → 0 < depth)
    (h : ClosesAngles (anglesBehind depth c) cs) : ClosesAngles depth (c :: cs) := by
  constructor
  · intro front start
    obtain rfl | ⟨rest, rfl, behind⟩ := List.prefix_cons_iff.1 start
    · simp
    · have shorter := h.opened rest behind
      grind [anglesBehind]
  · have closed := h.closed
    grind [anglesBehind]
  · intro front start
    cases front with
    | nil => grind
    | cons first rest =>
      have shorter := h.commas rest (by grind)
      grind [anglesBehind]

theorem closesAngles_cons_iff :
    ClosesAngles depth (c :: cs) ↔
      (c = ',' ∨ c = '>' → 0 < depth) ∧ ClosesAngles (anglesBehind depth c) cs := by
  constructor
  · intro h
    refine ⟨?_, h.tail⟩
    rintro (rfl | rfl)
    · simpa using h.commas [] (by simp)
    · simpa [Nat.one_le_iff_ne_zero, Nat.pos_iff_ne_zero] using h.opened ['>'] (by simp)
  · rintro ⟨inner, h⟩
    exact h.cons inner

instance decidableClosesAngles : ∀ depth cs, Decidable (ClosesAngles depth cs)
  | _, [] => decidable_of_iff _ closesAngles_nil_iff.symm
  | depth, c :: cs =>
    have := decidableClosesAngles (anglesBehind depth c) cs
    decidable_of_iff _ closesAngles_cons_iff.symm

theorem ClosesAngles.append (h : ClosesAngles depth cs) (h' : ClosesAngles 0 ds) :
    ClosesAngles depth (cs ++ ds) := by
  induction cs generalizing depth with
  | nil =>
    obtain rfl := closesAngles_nil_iff.1 h
    exact h'
  | cons c cs ih =>
    obtain ⟨inner, rest⟩ := closesAngles_cons_iff.1 h
    exact (ih rest).cons inner

theorem closesAngles_of_notMem (comma : ',' ∉ cs) (opening : '<' ∉ cs) (closing : '>' ∉ cs) :
    ClosesAngles 0 cs := by
  induction cs with
  | nil => exact closesAngles_nil_iff.2 rfl
  | cons c cs ih => grind [closesAngles_cons_iff, anglesBehind]

/-- A text that closes its brackets stands in one piece. -/
theorem splitOuterChars_append (h : ClosesAngles depth cs) (rest : List Char) :
    splitOuterChars depth (cs ++ rest) = (splitOuterChars 0 rest).modifyHead (cs ++ ·) := by
  induction cs generalizing depth with
  | nil =>
    obtain rfl := closesAngles_nil_iff.1 h
    exact (congrFun List.modifyHead_id _).symm
  | cons c cs ih =>
    obtain ⟨inner, behind⟩ := closesAngles_cons_iff.1 h
    have within : ¬(c = ',' ∧ depth = 0) := by grind
    rw [List.cons_append, splitOuterChars, if_neg within, ih behind]
    simp [Function.comp_def]

theorem splitOuterChars_intercalate {part : List Char} {parts : List (List Char)}
    (h : ∀ p ∈ part :: parts, ClosesAngles 0 p) :
    splitOuterChars 0 ([','].intercalate (part :: parts)) = part :: parts := by
  induction parts generalizing part with
  | nil =>
    have single := splitOuterChars_append (h part List.mem_cons_self) []
    simpa [splitOuterChars] using single
  | cons next parts ih =>
    obtain ⟨closes, rest⟩ := List.forall_mem_cons.1 h
    rw [List.intercalate_cons_cons, List.append_assoc, splitOuterChars_append closes,
      List.singleton_append, splitOuterChars, if_pos ⟨rfl, rfl⟩, ih rest]
    simp

/-- Texts that close their brackets are the pieces of the text that they are joined to. -/
theorem splitOuter_intercalate {parts : List String} (nonempty : parts ≠ [])
    (h : ∀ part ∈ parts, ClosesAngles 0 part.toList) :
    splitOuter (",".intercalate parts) = parts := by
  obtain ⟨part, parts, rfl⟩ := List.exists_cons_of_ne_nil nonempty
  have closes : ∀ p ∈ part.toList :: parts.map String.toList, ClosesAngles 0 p := by simpa using h
  have comma : ",".toList = [','] := rfl
  rw [splitOuter, String.toList_intercalate, comma, List.map_cons,
    splitOuterChars_intercalate closes]
  simp [Function.comp_def]

end Angles

end Text

def Parameter.entry (p : Parameter) : String := p.typeName ++ " " ++ p.name

namespace Signature

theorem declList_eq (ps : List Parameter) :
    (ofParameters ps).declList = ",".intercalate (ps.map Parameter.entry) := rfl

theorem argList_eq (ps : List Parameter) :
    (ofParameters ps).argList = ",".intercalate (ps.map Parameter.name) := rfl

theorem declList_eq_empty_iff {ps : List Parameter} :
    (ofParameters ps).declList = "" ↔ ps = [] := by
  have filled : ∀ entry ∈ ps.map Parameter.entry, entry ≠ "" := by
    simp [Parameter.entry, String.append_eq_empty_iff]
  rw [declList_eq, Text.intercalate_eq_empty_iff filled, List.map_eq_nil_iff]

end Signature

namespace ParameterList

variable (list : ParameterList)

theorem isIdentifier_of_mem_names {name : String} (h : name ∈ list.toList.map Parameter.name) :
    JavaName.isIdentifier name = true := by
  obtain ⟨p, declared, rfl⟩ := List.mem_map.1 h
  exact list.isIdentifier_of_mem declared

theorem argList_eq_empty_iff :
    (Signature.ofParameters list.toList).argList = "" ↔ list.toList = [] := by
  have filled : ∀ name ∈ list.toList.map Parameter.name, name ≠ "" := by
    intro name mem
    exact JavaName.ne_of_isIdentifier (list.isIdentifier_of_mem_names mem) (by decide)
  rw [Signature.argList_eq, Text.intercalate_eq_empty_iff filled, List.map_eq_nil_iff]

theorem split_argList (nonempty : list.toList ≠ []) :
    Text.split ',' (Signature.ofParameters list.toList).argList =
      list.toList.map Parameter.name := by
  refine Text.split_intercalate (by simpa using nonempty) fun name mem => ?_
  exact JavaName.notMem_of_isIdentifier (list.isIdentifier_of_mem_names mem) (by decide)

/-- The space in front of the name is the last one of an entry. -/
theorem cutLast_entry {p : Parameter} (declared : p ∈ list.toList) :
    Text.cutLast ' ' p.entry = some (p.typeName, p.name) := by
  have space := JavaName.notMem_of_isIdentifier (list.isIdentifier_of_mem declared)
    (by decide : JavaName.isLetterOrDigit ' ' = false)
  exact Text.cutLast_append space p.typeName

theorem closesAngles_entry {p : Parameter} (declared : p ∈ list.toList)
    (closes : Text.ClosesAngles 0 p.typeName.toList) : Text.ClosesAngles 0 p.entry.toList := by
  have identifier := list.isIdentifier_of_mem declared
  have name : Text.ClosesAngles 0 (" " ++ p.name).toList := by
    apply Text.closesAngles_of_notMem
    all_goals simpa using JavaName.notMem_of_isIdentifier identifier (by decide)
  rw [Parameter.entry, String.append_assoc, String.toList_append]
  exact closes.append name

theorem splitOuter_declList (nonempty : list.toList ≠ [])
    (closes : ∀ p ∈ list.toList, Text.ClosesAngles 0 p.typeName.toList) :
    Text.splitOuter (Signature.ofParameters list.toList).declList =
      list.toList.map Parameter.entry := by
  refine Text.splitOuter_intercalate (by simpa using nonempty) fun entry mem => ?_
  obtain ⟨p, declared, rfl⟩ := List.mem_map.1 mem
  exact list.closesAngles_entry declared (closes p declared)

end ParameterList

/-- The signature of accepted parameters can be read back. Both lists are empty only without
parameters. The argument list is cut at its commas into the names. If every type closes its angle
brackets and has its commas inside of them, then the declaration list is cut at its commas outside
of them into as many entries, each entry at its last space into the type and the name of its
parameter, and these names are the arguments in the same places. -/
theorem composed_signature_is_read_back {declaration : String} {ps : List Parameter}
    {list : ParameterList} (accepted : Validation.parameters declaration ps = .ok list) :
    let s := Signature.ofParameters ps
    (s.argList = "" ↔ ps = []) ∧ (s.declList = "" ↔ ps = []) ∧
    (ps ≠ [] → Text.split ',' s.argList = ps.map Parameter.name) ∧
    ((∀ p ∈ ps, Text.ClosesAngles 0 p.typeName.toList) → ps ≠ [] →
      (Text.splitOuter s.declList).map (Text.cutLast ' ') =
        ps.map (fun p => some (p.typeName, p.name)) ∧
      List.Forall₂ (fun entry name => ∃ typeName, Text.cutLast ' ' entry = some (typeName, name))
        (Text.splitOuter s.declList) (Text.split ',' s.argList)) := by
  obtain rfl := Validation.parameters_eq_ok accepted
  refine ⟨list.argList_eq_empty_iff, Signature.declList_eq_empty_iff, list.split_argList, ?_⟩
  intro closes nonempty
  have read (p : Parameter) (declared : p ∈ list.toList) := list.cutLast_entry declared
  rw [list.splitOuter_declList nonempty closes, list.split_argList nonempty]
  constructor
  · simpa using read
  · simp only [List.forall₂_map_left_iff, List.forall₂_map_right_iff, List.forall₂_same]
    exact fun p declared => ⟨p.typeName, read p declared⟩

/-- A type with nested brackets, a comma and spaces. Cut at every comma, its list would have an
entry too many. -/
theorem signature_of_nested_types :
    let ps : List Parameter :=
      [⟨"Map<String, List<? extends Foo>>", "counts"⟩, ⟨"final int[]", "limits"⟩]
    let s := Signature.ofParameters ps
    (∃ list, Validation.parameters "billing.Orders#find" ps = .ok list) ∧
      (∀ p ∈ ps, Text.ClosesAngles 0 p.typeName.toList) ∧
      Text.split ',' s.argList = ["counts", "limits"] ∧
      (Text.split ',' s.declList).length = 3 ∧
      (Text.splitOuter s.declList).map (Text.cutLast ' ') =
        [some ("Map<String, List<? extends Foo>>", "counts"), some ("final int[]", "limits")] := by
  intro ps s
  have accepted : Validation.parameters "billing.Orders#find" ps =
      .ok ⟨ps, by decide +kernel, by decide +kernel⟩ := rfl
  have closes : ∀ p ∈ ps, Text.ClosesAngles 0 p.typeName.toList := by decide +kernel
  have nonempty : ps ≠ [] := List.cons_ne_nil _ _
  obtain ⟨-, -, names, pairs⟩ := composed_signature_is_read_back accepted
  exact ⟨⟨_, accepted⟩, closes, names nonempty, by decide +kernel, (pairs closes nonempty).1⟩

/-- A comma elsewhere in a type is taken for the end of a parameter. -/
example : (Signature.ofParameters [⟨"int from, int", "to"⟩]).declList =
    (Signature.ofParameters [⟨"int", "from"⟩, ⟨" int", "to"⟩]).declList := by
  decide

end ExceptionStubs
