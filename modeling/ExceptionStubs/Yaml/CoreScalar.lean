import ExceptionStubs.Json.Number
import ExceptionStubs.Text.Hexadecimal
import ExceptionStubs.Yaml.Token
/-!
# Types of scalars

Where a value has no fixed type, a plain scalar is null, a truth value, a whole number, a floating
point number or, if it is none of these, a text. Digits behind a leading zero are a text. A tag of a
core type asks for that type.
-/

namespace ExceptionStubs.Yaml

/-- A scalar by its type. Whole numbers are told apart by whether they fit 64 bits; a floating point
number that is no finite number has no digits. -/
inductive CoreScalar where
  | null
  | bool (b : Bool)
  | natural (n : Nat)
  | negative (n : Nat)
  | wide
  | float (digits : Option JsonNumber)
  | text (s : String)

namespace CoreScalar

def isNull (s : String) : Bool := ["null", "Null", "NULL", "~"].contains s

def bool? (s : String) : Option Bool :=
  if ["true", "True", "TRUE"].contains s then some true
  else if ["false", "False", "FALSE"].contains s then some false
  else none

def isZeroPadded (cs : List Char) : Bool :=
  match cs with
  | '-' :: '0' :: d :: ds | '+' :: '0' :: d :: ds | '0' :: d :: ds => (d :: ds).all Char.isDigit
  | _ => false

def digits? (base : Nat) (cs : List Char) : Option Nat :=
  if cs.isEmpty then none
  else do
    let ds ← cs.mapM Text.hexDigit?
    if ds.all (· < base) then some (ds.foldl (fun n d => base * n + d) 0) else none

def magnitude? (decimal : Bool) : List Char → Option Nat
  | '0' :: 'x' :: cs => digits? 16 cs
  | '0' :: 'o' :: cs => digits? 8 cs
  | '0' :: 'b' :: cs => digits? 2 cs
  | cs => if decimal then digits? 10 cs else none

def integer? (cs : List Char) : Option CoreScalar :=
  match cs with
  | '-' :: ds =>
    (magnitude? (!isZeroPadded cs) ds).bind fun n =>
      if n ≤ Nat.pow 2 63 then some (negative n) else if n ≤ Nat.pow 2 127 then some wide else none
  | _ =>
    let ds := if cs.head? = some '+' then cs.drop 1 else cs
    (magnitude? (!isZeroPadded cs) ds).bind fun n =>
      if n < Nat.pow 2 64 then some (natural n) else if n < Nat.pow 2 128 then some wide else none

def exponent? : List Char → Option (Option (Bool × List Char))
  | [] => some none
  | c :: cs =>
    if c = 'e' ∨ c = 'E' then
      let (below, digits) :=
        match cs with
        | '-' :: ds => (true, ds)
        | '+' :: ds => (false, ds)
        | ds => (false, ds)
      if !digits.isEmpty && digits.all Char.isDigit then some (some (below, digits)) else none
    else none

/-- The number in decimal digits that a text without a sign spells. It keeps a fraction or an
exponent, so that it differs from the whole numbers. -/
def decimal? (below : Bool) (cs : List Char) : Option JsonNumber := do
  let whole := cs.takeWhile Char.isDigit
  let rest := cs.dropWhile Char.isDigit
  let (fraction, rest) :=
    match rest with
    | '.' :: rest => (rest.takeWhile Char.isDigit, rest.dropWhile Char.isDigit)
    | rest => ([], rest)
  if whole.isEmpty && fraction.isEmpty then none
  let exponent ← exponent? rest
  return {
    negative := below
    whole := if whole.isEmpty then ['0'] else whole
    fraction := if fraction.isEmpty && exponent.isNone then ['0'] else fraction
    exponent := exponent }

/-- The number is rounded to a finite one. The number of its digits decides, except close to the
largest finite number. -/
def isFinite (n : JsonNumber) : Bool :=
  let significand := Json.digitsValue 0 (n.whole ++ n.fraction)
  let written : Int :=
    match n.exponent with
    | none => 0
    | some (below, digits) =>
      let e : Int := Json.digitsValue 0 digits
      if below then -e else e
  let exponent := written - n.fraction.length
  let digits := (Nat.toDigits 10 significand).length
  significand == 0 || digits + exponent < 309 ||
    (digits + exponent < 311 &&
      significand * Nat.pow 10 exponent.toNat <
        Json.overflowThreshold * Nat.pow 10 (-exponent).toNat)

def float? (s : String) : Option CoreScalar :=
  if [".inf", ".Inf", ".INF", "+.inf", "+.Inf", "+.INF", "-.inf", "-.Inf", "-.INF", ".nan", ".NaN",
    ".NAN"].contains s then some (float none)
  else
    let number :=
      match s.toList with
      | '-' :: cs => decimal? true cs
      | '+' :: cs => decimal? false cs
      | cs => decimal? false cs
    (number.filter isFinite).map fun n => float (some n)

def ofPlain (s : String) : CoreScalar :=
  if s.isEmpty || isNull s then null
  else
    match bool? s, integer? s.toList with
    | some b, _ => bool b
    | none, some v => v
    | none, none =>
      if isZeroPadded s.toList then text s else (float? s).getD (text s)

def ofScalar? (tag : Option Tag) (style : ScalarStyle) (s : String) : Option CoreScalar :=
  match tag with
  | none => some (if style = .plain then ofPlain s else text s)
  | some t =>
    if t = .core "bool" then (bool? s).map bool
    else if t = .core "int" then integer? s.toList
    else if t = .core "float" then float? s
    else if t = .core "null" then if isNull s then some null else none
    else some (if t.isLocal && style = .plain then ofPlain s else text s)

end CoreScalar

end ExceptionStubs.Yaml
