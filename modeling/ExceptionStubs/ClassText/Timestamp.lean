/-!
# Calendar time

A date of the proleptic Gregorian calendar with a time of day in whole seconds; the second 60 is a
leap second. The type of a field holds its bounds, and the day is one of its month, so there is no
time that does not exist. A time is shown day first.
-/

namespace ExceptionStubs

/-- A year of the calendar, which has a first and a last one. -/
structure Year where
  value : Int
  isInRange : -262143 ≤ value ∧ value ≤ 262142
deriving DecidableEq, Repr

namespace Year

-- A literal is a year if `Fin (262143 - n)` has an element, which instance search finds. Months and
-- days are written likewise, and no literal is out of bounds.
instance (n : Nat) [Nonempty (Fin (262143 - n))] : OfNat Year n where
  ofNat := ⟨n, by have : 0 < 262143 - n := Fin.pos'; omega⟩

def ofInt? (n : Int) : Option Year :=
  if h : -262143 ≤ n ∧ n ≤ 262142 then some ⟨n, h⟩ else none

/-- Every fourth year is a leap year, of the full centuries only every fourth. -/
def isLeap (year : Year) : Bool :=
  year.value % 4 == 0 && (year.value % 100 != 0 || year.value % 400 == 0)

end Year

structure Month where
  value : Nat
  isInRange : 1 ≤ value ∧ value ≤ 12
deriving DecidableEq, Repr

namespace Month

instance (n : Nat) [Nonempty (Fin n)] [Nonempty (Fin (13 - n))] : OfNat Month n where
  ofNat := ⟨n, by
    have positive : 0 < n := Fin.pos'
    have below : 0 < 13 - n := Fin.pos'
    omega⟩

def ofNat? (n : Nat) : Option Month :=
  if h : 1 ≤ n ∧ n ≤ 12 then some ⟨n, h⟩ else none

def length (month : Month) (year : Year) : Nat :=
  if month.value = 2 then if year.isLeap then 29 else 28
  else if [4, 6, 9, 11].contains month.value then 30 else 31

theorem le_length (month : Month) (year : Year) : 28 ≤ month.length year := by
  unfold length
  grind

end Month

structure Day (year : Year) (month : Month) where
  value : Nat
  isInRange : 1 ≤ value ∧ value ≤ month.length year
deriving DecidableEq, Repr

namespace Day

variable {year : Year} {month : Month}

-- Only the days that every month has are literals: whether there are others depends on the month.
instance (n : Nat) [Nonempty (Fin n)] [Nonempty (Fin (29 - n))] : OfNat (Day year month) n where
  ofNat := ⟨n, by
    have positive : 0 < n := Fin.pos'
    have below : 0 < 29 - n := Fin.pos'
    have := month.le_length year
    omega⟩

def ofNat? (n : Nat) : Option (Day year month) :=
  if h : 1 ≤ n ∧ n ≤ month.length year then some ⟨n, h⟩ else none

end Day

structure Timestamp where
  year : Year
  month : Month
  day : Day year month
  hour : Fin 24
  minute : Fin 60
  second : Fin 61
deriving DecidableEq, Repr

namespace Timestamp

/-- The time with these fields, if there is one. A leap second is written as the second 59 with at
least a billion nanoseconds. -/
def ofFields? (year : Int) (month day hour minute second nanosecond : Nat) : Option Timestamp := do
  let year ← Year.ofInt? year
  let month ← Month.ofNat? month
  let day ← Day.ofNat? day
  let leap := nanosecond / 1000000000
  if h : hour < 24 ∧ minute < 60 ∧ second < 60 ∧ (leap = 0 ∨ leap = 1 ∧ second = 59) then
    return ⟨year, month, day, ⟨hour, h.1⟩, ⟨minute, h.2.1⟩, ⟨second + leap, by omega⟩⟩
  else none

def padded (width n : Nat) : String :=
  let digits := toString n
  String.ofList (List.replicate (width - digits.length) '0') ++ digits

/-- A year with at least four digits; one beyond four digits or before the year zero is signed. -/
def yearText (year : Int) : String :=
  if 0 ≤ year && year ≤ 9999 then padded 4 year.toNat
  else (if year < 0 then "-" else "+") ++ padded 4 year.natAbs

/-- Day, month and year, then the time of day. -/
def render (t : Timestamp) : String :=
  padded 2 t.day.value ++ "/" ++ padded 2 t.month.value ++ "/" ++ yearText t.year.value ++ " " ++
    padded 2 t.hour ++ ":" ++ padded 2 t.minute ++ ":" ++ padded 2 t.second

end Timestamp

end ExceptionStubs
