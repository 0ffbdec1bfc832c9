/-!
# Masking dates

The date in a header changes with every run. Masking replaces every `date = "…"` by the same text,
taking the leftmost occurrence first and going on behind it. `pieces` is the text between the
occurrences, which masking leaves alone.
-/

namespace ExceptionStubs.DateMask

def opening : List Char := "date = \"".toList

def masked : List Char := "date = \"<masked>\"".toList

/-- The text behind an occurrence that a text starts with, if it starts with one. -/
def afterDate? (cs : List Char) : Option (List Char) :=
  if opening.isPrefixOf cs then
    match (cs.drop opening.length).dropWhile (· != '"') with
    | [] => none
    | _ :: behind => some behind
  else none

theorem length_lt_of_afterDate? {cs behind : List Char} (h : afterDate? cs = some behind) :
    behind.length < cs.length := by
  rw [afterDate?] at h
  split at h
  · split at h
    · simp at h
    · next q b hd =>
      have h1 := (List.dropWhile_sublist (· != '"') (l := cs.drop opening.length)).length_le
      rw [hd, List.length_cons, List.length_drop] at h1
      simp only [Option.some.injEq] at h
      subst h
      omega
  · simp at h

def maskChars : List Char → List Char
  | [] => []
  | c :: cs =>
    match _h : afterDate? (c :: cs) with
    | some behind => masked ++ maskChars behind
    | none => c :: maskChars cs
termination_by cs => cs.length
decreasing_by
  · exact length_lt_of_afterDate? _h
  · simp

/-- The texts before, between and behind the occurrences. -/
def pieces : List Char → List (List Char)
  | [] => [[]]
  | c :: cs =>
    match _h : afterDate? (c :: cs) with
    | some behind => [] :: pieces behind
    | none =>
      match pieces cs with
      | [] => [[c]]
      | piece :: rest => (c :: piece) :: rest
termination_by cs => cs.length
decreasing_by
  · exact length_lt_of_afterDate? _h
  · simp

/-- The text with every occurrence replaced. -/
def mask (s : String) : String := String.ofList (maskChars s.toList)

end ExceptionStubs.DateMask
