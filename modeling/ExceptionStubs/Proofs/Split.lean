import ExceptionStubs.Proofs.JavaName
import Mathlib.Data.List.Basic
/-!
# Pieces of a text

Cutting a text at a separator and joining the pieces with it are inverse to each other, as long as
the pieces hold no separator. So a dotted name is a row of identifiers that are joined by dots, and
it tells its identifiers.
-/

namespace ExceptionStubs

namespace Text

/-- The pieces of a text are those of the library. -/
theorem splitChars_eq_splitOn (sep : Char) (cs : List Char) :
    splitChars sep cs = cs.splitOn sep := by
  induction cs with
  | nil => rfl
  | cons c cs ih =>
    rw [splitChars, List.splitOn_cons_eq_if_modifyHead, ← ih]
    obtain ⟨piece, pieces, parts⟩ := List.exists_cons_of_ne_nil (splitChars_ne_nil sep cs)
    by_cases h : c = sep <;> simp [h, parts]

theorem splitChars_of_notMem {sep : Char} {cs : List Char} (h : sep ∉ cs) :
    splitChars sep cs = [cs] := by
  have apart : ∀ piece ∈ [cs], sep ∉ piece := by simpa using h
  have joined := List.splitOn_intercalate sep apart (List.cons_ne_nil cs [])
  rwa [List.intercalate_singleton, ← splitChars_eq_splitOn] at joined

theorem splitChars_append (sep : Char) (before after : List Char) :
    splitChars sep (before ++ sep :: after) = splitChars sep before ++ splitChars sep after := by
  simp only [splitChars_eq_splitOn]
  exact List.splitOnP_append_cons before after (beq_self_eq_true sep)

/-- The pieces of a text tell the text. -/
theorem splitChars_inj {sep : Char} {cs ds : List Char} :
    splitChars sep cs = splitChars sep ds ↔ cs = ds := by
  have joined (cs : List Char) : [sep].intercalate (splitChars sep cs) = cs := by
    rw [splitChars_eq_splitOn, List.intercalate_splitOn]
  constructor
  · intro h
    rw [← joined cs, h, joined]
  · rintro rfl
    rfl

theorem split_inj {sep : Char} {s t : String} : split sep s = split sep t ↔ s = t := by
  unfold split
  rw [List.map_inj_right fun _ _ => String.ofList_injective, splitChars_inj, String.toList_inj]

theorem split_ne_nil (sep : Char) (s : String) : split sep s ≠ [] := by
  rw [split, ne_eq, List.map_eq_nil_iff]
  exact splitChars_ne_nil sep s.toList

/-- Joining the pieces of a text gives it back. -/
theorem intercalate_split (sep : Char) (s : String) :
    (String.singleton sep).intercalate (split sep s) = s := by
  rw [← String.toList_inj, String.toList_intercalate, split, List.map_map]
  simp [splitChars_eq_splitOn, Function.comp_def]

/-- Pieces without separators are the pieces of the text that they are joined to. -/
theorem split_intercalate {sep : Char} {parts : List String} (nonempty : parts ≠ [])
    (apart : ∀ part ∈ parts, sep ∉ part.toList) :
    split sep ((String.singleton sep).intercalate parts) = parts := by
  rw [split, String.toList_intercalate, splitChars_eq_splitOn, String.toList_singleton,
    List.splitOn_intercalate sep (by simpa using apart) (by simpa using nonempty)]
  simp [Function.comp_def]

/-- The first separator of a text ends its first piece. -/
theorem append_cons_inj {sep : Char} {before before' after after' : List Char}
    (h : sep ∉ before) (h' : sep ∉ before') :
    before ++ sep :: after = before' ++ sep :: after' ↔ before = before' ∧ after = after' := by
  constructor
  · intro same
    have pieces := congrArg (splitChars sep) same
    rw [splitChars_append, splitChars_append, splitChars_of_notMem h, splitChars_of_notMem h',
      List.singleton_append, List.singleton_append, List.cons.injEq, splitChars_inj] at pieces
    exact pieces
  · rintro ⟨rfl, rfl⟩
    rfl

/-- The last separator of a text opens its last piece. -/
theorem append_cons_inj_last {sep : Char} {before before' after after' : List Char}
    (h : sep ∉ after) (h' : sep ∉ after') :
    before ++ sep :: after = before' ++ sep :: after' ↔ before = before' ∧ after = after' := by
  rw [← List.reverse_inj, List.reverse_append, List.reverse_append, List.reverse_cons,
    List.reverse_cons, List.append_assoc, List.append_assoc, List.singleton_append,
    List.singleton_append, append_cons_inj (by simpa using h) (by simpa using h'),
    List.reverse_inj, List.reverse_inj, and_comm]

theorem intercalate_eq_empty_iff {sep : String} {parts : List String}
    (h : ∀ part ∈ parts, part ≠ "") : sep.intercalate parts = "" ↔ parts = [] := by
  cases parts with
  | nil => simp
  | cons part parts =>
    have filled := h part List.mem_cons_self
    cases parts <;> simp [String.intercalate_cons_cons, String.append_eq_empty_iff, filled]

theorem split_append_newline (before after : String) :
    split '\n' (before ++ "\n" ++ after) = split '\n' before ++ split '\n' after := by
  have chars : (before ++ "\n" ++ after).toList = before.toList ++ '\n' :: after.toList := by
    simp [String.toList_append]
  rw [split, chars, splitChars_append, List.map_append]
  rfl

theorem split_of_notMem {line : String} (h : '\n' ∉ line.toList) : split '\n' line = [line] := by
  rw [split, splitChars_of_notMem h, List.map_singleton, String.ofList_toList]

theorem join_cons (s : String) (texts : List String) :
    "".intercalate (s :: texts) = s ++ "".intercalate texts := by
  cases texts with
  | nil => simp
  | cons t texts => simp [String.intercalate_cons_cons]

end Text

namespace JavaName

/-- Identifiers, at least one, that are joined by dots. -/
def IsDotted (name : String) : Prop :=
  ∃ parts, parts ≠ [] ∧ (∀ part ∈ parts, isIdentifier part = true) ∧
    ".".intercalate parts = name

theorem isQualifiedName_iff {name : String} : isQualifiedName name = true ↔ IsDotted name := by
  rw [isQualifiedName, List.all_eq_true]
  constructor
  · intro named
    exact ⟨_, Text.split_ne_nil '.' name, named, Text.intercalate_split '.' name⟩
  · rintro ⟨parts, nonempty, named, rfl⟩
    have pieces : Text.split '.' (".".intercalate parts) = parts :=
      Text.split_intercalate nonempty fun part mem => dot_notMem_of_isIdentifier (named part mem)
    rwa [pieces]

theorem isPackageName_iff {package : String} :
    isPackageName package = true ↔ package = "" ∨ IsDotted package := by
  rw [isPackageName, Bool.or_eq_true, String.isEmpty_iff, isQualifiedName_iff]

end JavaName

end ExceptionStubs
