import ExceptionStubs.Proofs.ClassText
import ExceptionStubs.Proofs.JavaName
/-!
# The line of a header

A time is written with digits and a few marks, and a package name with letters, digits and dots. So
the annotation of a header is never empty and fills one line of a class text, and nothing in a date
looks like its end.
-/

namespace ExceptionStubs

namespace Timestamp

variable {c : Char} (other : c.isDigit = false)

include other

theorem notMem_padded (width n : Nat) : c ∉ (padded width n).toList := by
  have digits : c ∉ Nat.toDigits 10 n := by
    intro mem
    rw [Nat.isDigit_of_mem_toDigits (by decide) (by decide) mem] at other
    cases other
  have zero : c ≠ '0' := by
    rintro rfl
    cases other
  simp [padded, String.toList_append, digits, zero]

theorem notMem_yearText (sign : c ∉ ['-', '+']) (year : Int) : c ∉ (yearText year).toList := by
  unfold yearText
  split
  · exact notMem_padded other _ _
  · rw [String.toList_append, List.mem_append, not_or]
    simp only [List.mem_cons, List.not_mem_nil, or_false, not_or] at sign
    refine ⟨?_, notMem_padded other _ _⟩
    split
    · simpa using sign.1
    · simpa using sign.2

/-- A time holds nothing but digits, signs, slashes, blanks and colons. -/
theorem notMem_render (mark : c ∉ ['-', '+', '/', ' ', ':']) (t : Timestamp) :
    c ∉ t.render.toList := by
  have year : c ∉ (yearText t.year.value).toList :=
    notMem_yearText other (fun sign => mark (by grind)) t.year.value
  simp only [List.mem_cons, List.not_mem_nil, or_false, not_or] at mark
  simp [render, String.toList_append, notMem_padded other, year, mark]

end Timestamp

namespace MetadataHeader

theorem annotation_ne_empty (h : MetadataHeader) (package : String) :
    h.annotation package ≠ "" := by
  intro empty
  have closing : "\")" = "" := (String.append_eq_empty_iff.1 empty).2
  exact absurd closing (by decide)

/-- The annotation of a class from a package is one line. -/
theorem newline_notMem_annotation (h : MetadataHeader) {package : String}
    (valid : JavaName.isPackageName package = true) : '\n' ∉ (h.annotation package).toList := by
  have date : '\n' ∉ h.timestamp.toList := Timestamp.notMem_render (by decide) (by decide) _
  have name : '\n' ∉ package.toList :=
    JavaName.notMem_of_isPackageName valid (by decide) (by decide)
  unfold annotation
  simp only [String.toList_append, List.mem_append, not_or]
  refine ⟨⟨⟨⟨⟨⟨⟨⟨?_, ?_⟩, ?_⟩, date⟩, ?_⟩, ?_⟩, ?_⟩, name⟩, ?_⟩
  all_goals decide +kernel

/-- With a header, its annotation is a line of the class text. -/
theorem optionalLine_some (h : MetadataHeader) (package : String) :
    ClassText.optionalLine "" (line (some h) package) = h.annotation package ++ "\n" := by
  simp [ClassText.optionalLine, line, h.annotation_ne_empty]

/-- Without a header, there is no such line. -/
theorem optionalLine_none (package : String) :
    ClassText.optionalLine "" (line none package) = "" := rfl

end MetadataHeader

end ExceptionStubs
