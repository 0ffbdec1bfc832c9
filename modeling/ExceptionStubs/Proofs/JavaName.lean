import ExceptionStubs.Target
/-!
# Qualified names of targets

A name without a dot can be read back from its qualified name, whatever the package, so targets
that differ have different qualified names. The targets that a sink accepts are the pairs of a
package name and an identifier, and the suffix of implementations keeps an identifier one.
-/

namespace ExceptionStubs

namespace Text

theorem cutLastChars_append {sep : Char} {after : List Char} (h : sep ∉ after)
    (before : List Char) : cutLastChars sep (before ++ sep :: after) = some (before, after) := by
  induction before with
  | nil => simp [cutLastChars, cutLastChars_eq_none_iff.2 h]
  | cons c cs ih => simp [cutLastChars, ih]

/-- A text is cut where it was put together, if there is no separator behind that place. -/
theorem cutLast_append {sep : Char} {after : String} (h : sep ∉ after.toList) (before : String) :
    cutLast sep (before ++ String.singleton sep ++ after) = some (before, after) := by
  have chars : (before ++ String.singleton sep ++ after).toList =
      before.toList ++ sep :: after.toList := by simp
  rw [cutLast, chars, cutLastChars_append h]
  simp

/-- Apart from separators, every character of a text is in one of its pieces. -/
theorem exists_mem_splitChars {sep c : Char} {cs : List Char} (mem : c ∈ cs) (ne : c ≠ sep) :
    ∃ piece ∈ splitChars sep cs, c ∈ piece := by
  induction cs with
  | nil => cases mem
  | cons d ds ih =>
    obtain ⟨piece, pieces, parts⟩ := List.exists_cons_of_ne_nil (splitChars_ne_nil sep ds)
    rw [parts] at ih
    by_cases h : d = sep
    · obtain rfl | later := List.mem_cons.1 mem
      · exact absurd h ne
      · rw [splitChars, if_pos h, parts]
        obtain ⟨found, piece_mem, here⟩ := ih later
        exact ⟨found, List.mem_cons_of_mem _ piece_mem, here⟩
    · rw [splitChars, if_neg h, parts]
      obtain rfl | later := List.mem_cons.1 mem
      · exact ⟨c :: piece, List.mem_cons_self, List.mem_cons_self⟩
      · obtain ⟨found, piece_mem, here⟩ := ih later
        obtain rfl | behind := List.mem_cons.1 piece_mem
        · exact ⟨d :: found, List.mem_cons_self, List.mem_cons_of_mem _ here⟩
        · exact ⟨found, List.mem_cons_of_mem _ behind, here⟩

end Text

namespace JavaName

theorem isLetterOrDigit_of_mem {s : String} (h : isIdentifier s = true) {c : Char}
    (mem : c ∈ s.toList) : isLetterOrDigit c = true := by
  simp only [isIdentifier, Bool.and_eq_true] at h
  have shape := h.1
  cases chars : s.toList with
  | nil => simp [chars] at mem
  | cons first cs =>
    simp only [chars, hasIdentifierShape, Bool.and_eq_true, List.all_eq_true] at shape
    rw [chars] at mem
    rcases List.mem_cons.1 mem with rfl | tail
    · simp [isLetterOrDigit, shape.1]
    · exact shape.2 _ tail

theorem notMem_of_isIdentifier {s : String} (h : isIdentifier s = true) {c : Char}
    (other : isLetterOrDigit c = false) : c ∉ s.toList := by
  intro mem
  rw [isLetterOrDigit_of_mem h mem] at other
  cases other

theorem ne_of_isIdentifier {s other : String} (h : isIdentifier s = true)
    (bad : isIdentifier other = false) : s ≠ other := by
  rintro rfl
  exact Bool.false_ne_true (bad.symm.trans h)

/-- A package name holds letters, digits and dots. -/
theorem notMem_of_isPackageName {package : String} (h : isPackageName package = true) {c : Char}
    (other : isLetterOrDigit c = false) (dot : c ≠ '.') : c ∉ package.toList := by
  intro mem
  simp only [isPackageName, Bool.or_eq_true, isQualifiedName, List.all_eq_true] at h
  obtain empty | named := h
  · rw [String.isEmpty_iff.1 empty] at mem
    cases mem
  · obtain ⟨piece, found, here⟩ := Text.exists_mem_splitChars mem dot
    have identifier := named (.ofList piece) (List.mem_map_of_mem found)
    exact notMem_of_isIdentifier identifier other (by rwa [String.toList_ofList])

theorem isPackageName_of_isQualifiedName {name : String} (h : isQualifiedName name = true) :
    isPackageName name = true := by
  rw [isPackageName, h, Bool.or_true]

theorem notMem_of_isQualifiedName {name : String} (h : isQualifiedName name = true) {c : Char}
    (other : isLetterOrDigit c = false) (dot : c ≠ '.') : c ∉ name.toList :=
  notMem_of_isPackageName (isPackageName_of_isQualifiedName h) other dot

theorem dot_notMem_of_isIdentifier {s : String} (h : isIdentifier s = true) : '.' ∉ s.toList :=
  notMem_of_isIdentifier h (by decide)

/-- The default package leaves no trace in a qualified name; every other one can be cut off. -/
theorem unqualify?_qualify {name : String} (h : '.' ∉ name.toList) (package : String) :
    unqualify? (qualify package name) =
      if package.isEmpty then none else some (package, name) := by
  unfold unqualify? qualify
  cases package.isEmpty with
  | true => simp [Text.cutLast, Text.cutLastChars_eq_none_iff.2 h]
  | false => exact Text.cutLast_append h package

theorem qualify_inj {p q m n : String} (hm : '.' ∉ m.toList) (hn : '.' ∉ n.toList) :
    qualify p m = qualify q n ↔ p = q ∧ m = n := by
  constructor
  · intro h
    have cut := congrArg unqualify? h
    rw [unqualify?_qualify hm, unqualify?_qualify hn] at cut
    cases hp : p.isEmpty <;> cases hq : q.isEmpty <;> simp [hp, hq] at cut
    · exact cut
    · have hpq : p = q := by rw [String.isEmpty_iff.1 hp, String.isEmpty_iff.1 hq]
      exact ⟨hpq, by simpa [qualify, hp, hq] using h⟩
  · rintro ⟨rfl, rfl⟩
    rfl

/-- No reserved word ends like the name of an implementation. -/
theorem append_impl_notMem_reserved (s : String) : s ++ "Impl" ∉ reserved := by
  have noImpl : ∀ word ∈ reserved, ¬ "Impl".toList.isSuffixOf word.toList := by decide +kernel
  intro mem
  apply noImpl _ mem
  rw [List.isSuffixOf_iff_suffix, String.toList_append]
  exact List.suffix_append _ _

theorem isIdentifier_append_impl {s : String} (h : isIdentifier s = true) :
    isIdentifier (s ++ "Impl") = true := by
  simp only [isIdentifier, Bool.and_eq_true] at h
  have shape := h.1
  cases hs : s.toList with
  | nil => simp [hs, hasIdentifierShape] at shape
  | cons c cs =>
    simp only [hs, hasIdentifierShape, Bool.and_eq_true] at shape
    simp [isIdentifier, String.toList_append, hs, hasIdentifierShape, shape,
      append_impl_notMem_reserved]
    decide

end JavaName

namespace Target

theorem check_eq_ok_iff {package name : String} :
    check package name = .ok () ↔
      JavaName.isIdentifier name = true ∧ JavaName.isPackageName package = true := by
  unfold check JavaName.isPackageName JavaName.isQualifiedName
  cases JavaName.isIdentifier name with
  | false => simp
  | true =>
    cases package.isEmpty with
    | true => simp
    | false =>
      cases hf : (Text.split '.' package).find? (!JavaName.isIdentifier ·) with
      | none => simpa using List.find?_eq_none.1 hf
      | some segment =>
        have bad := List.find?_some hf
        have mem := List.mem_of_find?_eq_some hf
        simp only [Bool.not_eq_true'] at bad
        simp only [Bool.not_true, Bool.false_or, List.all_eq_true, true_and, Bool.false_eq_true,
          if_false, reduceCtorEq, false_iff]
        intro all
        exact absurd (all segment mem) (by simp [bad])

end Target

end ExceptionStubs
