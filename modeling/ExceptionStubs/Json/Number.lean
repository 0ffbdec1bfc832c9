import ExceptionStubs.Json.Basic
/-!
# Numbers within range

Numbers are meant for binary floating point with 53 significant bits. A number is read as a whole
number of at most 64 bits, further digits before the point raising the exponent and further digits
behind it being dropped, times a power of ten; it is out of range if the rounded product of the two
rounded factors is beyond the largest finite value.
-/

namespace ExceptionStubs.Json

/-- The nearest number with at most 53 significant bits; a tie goes to the even one. -/
def roundSignificant (n : Nat) : Nat :=
  let excess := Nat.log2 n + 1 - 53
  let unit := Nat.pow 2 excess
  let low := n / unit
  let rest := n % unit
  if 2 * rest > unit || (2 * rest == unit && low % 2 == 1) then (low + 1) * unit else low * unit

/-- The least number that is rounded beyond the largest finite value. -/
def overflowThreshold : Nat := Nat.pow 2 1024 - Nat.pow 2 970

def digitsValue (n : Nat) (digits : List Char) : Nat :=
  digits.foldl (fun n c => 10 * n + (c.toNat - '0'.toNat)) n

/-- Takes digits into a number while it fits 64 bits; gives the digits that are left. -/
def takeDigits (n : Nat) : List Char → Nat × List Char
  | [] => (n, [])
  | c :: cs =>
    let next := digitsValue n [c]
    if next < Nat.pow 2 64 then takeDigits next cs else (n, c :: cs)

def scientific (n : JsonNumber) : Nat × Int :=
  let (whole, dropped) := takeDigits 0 n.whole
  let (significand, ignored) := takeDigits whole n.fraction
  let written : Int :=
    match n.exponent with
    | none => 0
    | some (negative, digits) =>
      let e := min (digitsValue 0 digits) (Nat.pow 2 31 - 1)
      if negative then -(e : Int) else e
  (significand, dropped.length - (n.fraction.length - ignored.length : Nat) + written)

def isInRange (n : JsonNumber) : Bool :=
  let (significand, exponent) := scientific n
  significand == 0 || exponent ≤ 0 ||
    (exponent ≤ 308 &&
      roundSignificant significand * roundSignificant (Nat.pow 10 exponent.toNat) <
        overflowThreshold)

/-- All texts are proper, all numbers in range, and at most `depth` containers lie within each
other. -/
def isRegular : Nat → Json → Bool
  | _, null | _, bool _ => true
  | _, number n => isInRange n
  | _, string text => text.isSome
  | 0, array _ | 0, object _ => false
  | depth + 1, array items => items.all (isRegular depth)
  | depth + 1, object fields => fields.all fun (name, v) => name.isSome && isRegular depth v

end ExceptionStubs.Json
