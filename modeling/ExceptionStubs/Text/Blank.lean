/-!
# Blank characters

Blanks are the 25 characters with the property `White_Space`. A text is trimmed by dropping the
blanks at its ends. At the end, a last character that is blank is dropped, and with any other the
text stays as it is.
-/

namespace ExceptionStubs.Text

def isBlank (c : Char) : Bool :=
  let n := c.toNat
  (0x9 ≤ n && n ≤ 0xd) || n == 0x20 || n == 0x85 || n == 0xa0 || n == 0x1680 ||
    (0x2000 ≤ n && n ≤ 0x200a) || n == 0x2028 || n == 0x2029 || n == 0x202f || n == 0x205f ||
    n == 0x3000

def trimEndChars : List Char → List Char
  | [] => []
  | c :: cs =>
    match trimEndChars cs with
    | [] => if isBlank c then [] else [c]
    | d :: ds => c :: d :: ds

def trimChars (cs : List Char) : List Char := trimEndChars (cs.dropWhile isBlank)

def trimEnd (s : String) : String := String.ofList (trimEndChars s.toList)

def trim (s : String) : String := String.ofList (trimChars s.toList)

/-- Every character is blank; in particular the empty text is. -/
def isBlankText (s : String) : Bool := s.toList.all isBlank

def withoutBlanks (s : String) : String := String.ofList (s.toList.filter (!isBlank ·))

theorem trimEndChars_append_of_not_isBlank {c : Char} (h : isBlank c = false) (cs : List Char) :
    trimEndChars (cs ++ [c]) = cs ++ [c] := by
  induction cs with
  | nil => simp [trimEndChars, h]
  | cons d ds ih =>
    rw [List.cons_append, trimEndChars, ih]
    cases ds <;> rfl

theorem trimEndChars_append_of_isBlank {c : Char} (h : isBlank c = true) (cs : List Char) :
    trimEndChars (cs ++ [c]) = trimEndChars cs := by
  induction cs with
  | nil => simp [trimEndChars, h]
  | cons d ds ih => rw [List.cons_append, trimEndChars, ih, trimEndChars]

end ExceptionStubs.Text
