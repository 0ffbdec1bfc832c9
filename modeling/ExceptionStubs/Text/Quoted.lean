import ExceptionStubs.Text.Quoted.Table
/-!
# Quoted text in messages

Messages show paths and names between double quotes. Quotes, backslashes and the common control
characters are escaped by a letter, and every other character without a visible form of its own is
written by its number.
-/

namespace ExceptionStubs.Text.Quoted

def isVisible (c : Char) : Bool :=
  let n := c.toNat
  if n < 0x7f then 0x20 ≤ n else !invisible.any fun (first, last) => first ≤ n && n ≤ last

def escapeNumber (c : Char) : List Char :=
  ['\\', 'u', '\x7b'] ++ Nat.toDigits 16 c.toNat ++ ['\x7d']

def escapeChar (c : Char) : List Char :=
  if c = '\x00' then ['\\', '0']
  else if c = '\t' then ['\\', 't']
  else if c = '\n' then ['\\', 'n']
  else if c = '\r' then ['\\', 'r']
  else if c = '"' then ['\\', '"']
  else if c = '\\' then ['\\', '\\']
  else if isVisible c then [c]
  else escapeNumber c

end ExceptionStubs.Text.Quoted

namespace ExceptionStubs.Text

def quoted (s : String) : String :=
  String.ofList ('"' :: s.toList.flatMap Quoted.escapeChar ++ ['"'])

end ExceptionStubs.Text
