import ExceptionStubs.Json.Basic
/-!
# Writing JSON

A value is written in one line, or with every item and field on a line of its own, indented by two
spaces for each container around it. Empty containers stay on one line.
-/

namespace ExceptionStubs.Json

def escapeChar (c : Char) : List Char :=
  if c = '"' then ['\\', '"']
  else if c = '\\' then ['\\', '\\']
  else if c = '\n' then ['\\', 'n']
  else if c = '\r' then ['\\', 'r']
  else if c = '\t' then ['\\', 't']
  else if c = '\x08' then ['\\', 'b']
  else if c = '\x0c' then ['\\', 'f']
  else if c.toNat < 0x20 then
    ['\\', 'u', '0', '0', Nat.digitChar (c.toNat / 16), Nat.digitChar (c.toNat % 16)]
  else [c]

/-- A text between quotes; half of a surrogate pair stands for what is no text. -/
def writeText : Option String → List Char
  | some s => '"' :: s.toList.flatMap escapeChar ++ ['"']
  | none => ['"', '\\', 'u', 'd', '8', '0', '0', '"']

/-- A number as it was read; the exponent shows its sign only when it is negative. -/
def writeNumber (n : JsonNumber) : List Char :=
  (if n.negative then ['-'] else []) ++ n.whole ++
    (if n.fraction.isEmpty then [] else '.' :: n.fraction) ++
    match n.exponent with
    | none => []
    | some (negative, digits) => 'e' :: (if negative then ['-'] else []) ++ digits

mutual

def write : Json → List Char
  | null => ['n', 'u', 'l', 'l']
  | bool true => ['t', 'r', 'u', 'e']
  | bool false => ['f', 'a', 'l', 's', 'e']
  | number n => writeNumber n
  | string text => writeText text
  | array items => '[' :: writeItems items ++ [']']
  | object fields => '\x7b' :: writeFields fields ++ ['\x7d']

def writeItems : List Json → List Char
  | [] => []
  | [v] => write v
  | v :: w :: vs => write v ++ ',' :: writeItems (w :: vs)

def writeFields : List (Option String × Json) → List Char
  | [] => []
  | [(name, v)] => writeText name ++ ':' :: write v
  | (name, v) :: f :: fs => writeText name ++ ':' :: write v ++ ',' :: writeFields (f :: fs)

end

def newline (depth : Nat) : List Char := '\n' :: List.replicate (2 * depth) ' '

mutual

def writeIndented (depth : Nat) : Json → List Char
  | array (v :: vs) => '[' :: indentedItems (depth + 1) (v :: vs) ++ newline depth ++ [']']
  | object (f :: fs) => '\x7b' :: indentedFields (depth + 1) (f :: fs) ++ newline depth ++ ['\x7d']
  | v => write v

def indentedItems (depth : Nat) : List Json → List Char
  | [] => []
  | [v] => newline depth ++ writeIndented depth v
  | v :: w :: vs => newline depth ++ writeIndented depth v ++ ',' :: indentedItems depth (w :: vs)

def indentedFields (depth : Nat) : List (Option String × Json) → List Char
  | [] => []
  | [(name, v)] => newline depth ++ writeText name ++ ':' :: ' ' :: writeIndented depth v
  | (name, v) :: f :: fs =>
    newline depth ++ writeText name ++ ':' :: ' ' :: writeIndented depth v ++
      ',' :: indentedFields depth (f :: fs)

end

def render (v : Json) : String := String.ofList (write v)

def renderIndented (v : Json) : String := String.ofList (writeIndented 0 v)

end ExceptionStubs.Json
