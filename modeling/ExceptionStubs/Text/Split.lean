/-!
# Splitting text at a separator

`split` cuts a text at every occurrence of a character and always gives at least one piece;
joining the pieces gives the text back. `cutLast` cuts at the last occurrence only.
-/

namespace ExceptionStubs.Text

/-- The pieces between the occurrences of `sep`, the empty ones included. -/
def splitChars (sep : Char) : List Char → List (List Char)
  | [] => [[]]
  | c :: cs =>
    if c = sep then [] :: splitChars sep cs
    else
      match splitChars sep cs with
      | [] => [[c]]
      | piece :: pieces => (c :: piece) :: pieces

def split (sep : Char) (s : String) : List String := (splitChars sep s.toList).map String.ofList

def cutLastChars (sep : Char) : List Char → Option (List Char × List Char)
  | [] => none
  | c :: cs =>
    match cutLastChars sep cs with
    | some (before, after) => some (c :: before, after)
    | none => if c = sep then some ([], cs) else none

def cutLast (sep : Char) (s : String) : Option (String × String) :=
  (cutLastChars sep s.toList).map fun (before, after) => (String.ofList before, String.ofList after)

theorem splitChars_ne_nil (sep : Char) (cs : List Char) : splitChars sep cs ≠ [] := by
  cases cs with
  | nil => simp [splitChars]
  | cons c cs =>
    rw [splitChars]
    split
    · simp
    · split <;> simp

theorem cutLastChars_eq_none_iff {sep : Char} {cs : List Char} :
    cutLastChars sep cs = none ↔ sep ∉ cs := by
  induction cs with
  | nil => simp [cutLastChars]
  | cons c cs ih =>
    rw [cutLastChars]
    cases h : cutLastChars sep cs with
    | none =>
      have hm := ih.1 h
      by_cases hc : c = sep
      · simp [hc]
      · simp [hc, hm, Ne.symm hc]
    | some p =>
      have : sep ∈ cs := by
        by_cases hm : sep ∈ cs
        · exact hm
        · simp [ih.2 hm] at h
      simp [this]

/-- The two parts of a cut with the separator between them are the text, and the second part
holds no separator. -/
theorem eq_of_cutLastChars {sep : Char} {cs before after : List Char}
    (h : cutLastChars sep cs = some (before, after)) :
    cs = before ++ sep :: after ∧ sep ∉ after := by
  induction cs generalizing before with
  | nil => simp [cutLastChars] at h
  | cons c cs ih =>
    rw [cutLastChars] at h
    cases hr : cutLastChars sep cs with
    | none =>
      rw [hr] at h
      by_cases hc : c = sep
      · simp only [hc, if_true, Option.some.injEq, Prod.mk.injEq] at h
        obtain ⟨rfl, rfl⟩ := h
        exact ⟨by simp [hc], cutLastChars_eq_none_iff.1 hr⟩
      · simp [hc] at h
    | some p =>
      obtain ⟨b, a⟩ := p
      rw [hr] at h
      simp only [Option.some.injEq, Prod.mk.injEq] at h
      obtain ⟨rfl, rfl⟩ := h
      obtain ⟨hcs, ha⟩ := ih hr
      exact ⟨by rw [hcs]; rfl, ha⟩

end ExceptionStubs.Text
