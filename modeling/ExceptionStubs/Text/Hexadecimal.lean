/-!
# Hexadecimal digits
-/

namespace ExceptionStubs.Text

def hexDigit? (c : Char) : Option Nat :=
  if c.isDigit then some (c.toNat - '0'.toNat)
  else if 'a' ≤ c ∧ c ≤ 'f' then some (c.toNat - 'a'.toNat + 10)
  else if 'A' ≤ c ∧ c ≤ 'F' then some (c.toNat - 'A'.toNat + 10)
  else none

def hexNumber? (cs : List Char) : Option Nat :=
  (cs.mapM hexDigit?).map (·.foldl (fun n d => 16 * n + d) 0)

end ExceptionStubs.Text
