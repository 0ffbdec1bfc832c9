import ExceptionStubs.Text.LowerCase.Table
/-!
# Lower-casing

Every character is replaced by its lower-case form, which for one letter has two characters. A
capital sigma becomes a final sigma where a word ends: when, characters without casing context
skipped, a cased character stands before it and none stands after it.
-/

namespace ExceptionStubs.Text.LowerCase

def inStretches (stretches : List (Nat × Nat)) (n : Nat) : Bool :=
  stretches.any fun (first, last) => first ≤ n && n ≤ last

def lowerIn (n : Nat) : Nat × Nat × Nat × Nat → Option Char
  | (first, last, step, lower) =>
    if first ≤ n ∧ n ≤ last ∧ (n - first) % step = 0 then some (Char.ofNat (lower + (n - first)))
    else none

def lowerChar (c : Char) : List Char :=
  if c = '\u0130' then ['i', '\u0307'] else [(mappings.findSome? (lowerIn c.toNat)).getD c]

def startsCased : List Char → Bool
  | [] => false
  | c :: cs =>
    if inStretches ignorable c.toNat then startsCased cs else inStretches cased c.toNat

/-- The lower-case form of a text that stands after the characters `before`, nearest first. -/
def lowerAfter (before : List Char) : List Char → List Char
  | [] => []
  | c :: cs =>
    (if c = 'Σ' then [if startsCased before && !startsCased cs then 'ς' else 'σ']
      else lowerChar c) ++ lowerAfter (c :: before) cs

end ExceptionStubs.Text.LowerCase

namespace ExceptionStubs.Text

def lowerCase (s : String) : String := String.ofList (LowerCase.lowerAfter [] s.toList)

end ExceptionStubs.Text
