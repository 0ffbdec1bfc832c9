import ExceptionStubs.Json.Basic
import ExceptionStubs.Text.Hexadecimal
/-!
# JSON tokens

The text of a JSON value is a row of tokens with blanks between them: punctuation and the values
that are no containers.
-/

namespace ExceptionStubs.Json

inductive Token where
  | beginObject
  | endObject
  | beginArray
  | endArray
  | colon
  | comma
  | scalar (v : Json)

namespace Token

/-- The four blanks of the format. -/
def isBlank (c : Char) : Bool := c == ' ' || c == '\t' || c == '\n' || c == '\r'

def hex4? (a b c d : Char) : Option Nat := Text.hexNumber? [a, b, c, d]

/-- The first half of a surrogate pair. -/
def isLeading (n : Nat) : Bool := 0xd800 ≤ n && n ≤ 0xdbff

def isTrailing (n : Nat) : Bool := 0xdc00 ≤ n && n ≤ 0xdfff

def pairChar (leading trailing : Nat) : Char :=
  Char.ofNat (0x10000 + 0x400 * (leading - 0xd800) + (trailing - 0xdc00))

def escaped? (c : Char) : Option Char :=
  if c = '"' ∨ c = '\\' ∨ c = '/' then some c
  else if c = 'b' then some '\x08'
  else if c = 'f' then some '\x0c'
  else if c = 'n' then some '\n'
  else if c = 'r' then some '\r'
  else if c = 't' then some '\t'
  else none

/-- Reads a text behind its opening quote. `read` holds the characters so far, last first, or
`none` once half of a surrogate pair was met. -/
def readText (read : Option (List Char)) : List Char → Option (Option String × List Char)
  | [] => none
  | '"' :: rest => some (read.map fun cs => String.ofList cs.reverse, rest)
  | '\\' :: 'u' :: a :: b :: c :: d :: '\\' :: 'u' :: e :: f :: g :: h :: rest =>
    match hex4? a b c d, hex4? e f g h with
    | some n, some m =>
      if isLeading n && isTrailing m then readText (read.map (pairChar n m :: ·)) rest
      else if isLeading n || isTrailing n then
        readText none ('\\' :: 'u' :: e :: f :: g :: h :: rest)
      else readText (read.map (Char.ofNat n :: ·)) ('\\' :: 'u' :: e :: f :: g :: h :: rest)
    | _, _ => none
  | '\\' :: 'u' :: a :: b :: c :: d :: rest =>
    match hex4? a b c d with
    | some n =>
      if isLeading n || isTrailing n then readText none rest
      else readText (read.map (Char.ofNat n :: ·)) rest
    | none => none
  | '\\' :: c :: rest =>
    match escaped? c with
    | some c => readText (read.map (c :: ·)) rest
    | none => none
  | c :: rest => if c.toNat < 0x20 then none else readText (read.map (c :: ·)) rest
termination_by cs => cs.length

def readDigits (cs : List Char) : Option (List Char × List Char) :=
  match cs.takeWhile Char.isDigit with
  | [] => none
  | digits => some (digits, cs.dropWhile Char.isDigit)

/-- Reads digits without a needless zero in front. -/
def readWhole (cs : List Char) : Option (List Char × List Char) :=
  match readDigits cs with
  | some ('0' :: _ :: _, _) => none
  | other => other

def readFraction : List Char → Option (List Char × List Char)
  | '.' :: cs => readDigits cs
  | cs => some ([], cs)

def readExponentDigits (negative : Bool) (cs : List Char) :
    Option (Option (Bool × List Char) × List Char) :=
  (readDigits cs).map fun (digits, rest) => (some (negative, digits), rest)

def readExponent : List Char → Option (Option (Bool × List Char) × List Char)
  | [] => some (none, [])
  | c :: cs =>
    if c = 'e' ∨ c = 'E' then
      match cs with
      | '-' :: cs => readExponentDigits true cs
      | '+' :: cs => readExponentDigits false cs
      | cs => readExponentDigits false cs
    else some (none, c :: cs)

def readNumber (negative : Bool) (cs : List Char) : Option (Token × List Char) := do
  let (whole, cs) ← readWhole cs
  let (fraction, cs) ← readFraction cs
  let (exponent, cs) ← readExponent cs
  return (scalar (.number ⟨negative, whole, fraction, exponent⟩), cs)

def readFrom (c : Char) (rest : List Char) : Option (Token × List Char) :=
  match c, rest with
  | '\x7b', rest => some (beginObject, rest)
  | '\x7d', rest => some (endObject, rest)
  | '[', rest => some (beginArray, rest)
  | ']', rest => some (endArray, rest)
  | ':', rest => some (colon, rest)
  | ',', rest => some (comma, rest)
  | '"', rest => (readText (some []) rest).map fun (text, rest) => (scalar (.string text), rest)
  | 'n', 'u' :: 'l' :: 'l' :: rest => some (scalar .null, rest)
  | 't', 'r' :: 'u' :: 'e' :: rest => some (scalar (.bool true), rest)
  | 'f', 'a' :: 'l' :: 's' :: 'e' :: rest => some (scalar (.bool false), rest)
  | '-', rest => readNumber true rest
  | c, rest => readNumber false (c :: rest)

/-- The tokens of a text, of which at most `fuel` characters and tokens are read. -/
def readAll : Nat → List Char → Option (List Token)
  | _, [] => some []
  | 0, _ :: _ => none
  | fuel + 1, c :: cs =>
    if isBlank c then readAll fuel cs
    else
      match readFrom c cs with
      | none => none
      | some (token, rest) => (readAll fuel rest).map (token :: ·)

/-- The tokens of a text; every one takes at least one character. -/
def ofText? (cs : List Char) : Option (List Token) := readAll cs.length cs

end Token

end ExceptionStubs.Json
