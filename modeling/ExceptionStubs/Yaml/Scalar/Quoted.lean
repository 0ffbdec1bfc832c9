import ExceptionStubs.Text.Hexadecimal
import ExceptionStubs.Yaml.Scalar.Gap
/-!
# Quoted scalars

Between single quotes only the quote itself is special and is written twice. Between double quotes
a backslash starts an escape. In both a line may not look like the start or the end of a document.
-/

namespace ExceptionStubs.Yaml.Quoted

def escaped? (c : Char) : Option Char :=
  [('0', '\x00'), ('a', '\x07'), ('b', '\x08'), ('t', '\t'), ('\t', '\t'), ('n', '\n'),
    ('v', '\x0b'), ('f', '\x0c'), ('r', '\r'), ('e', '\x1b'), (' ', ' '), ('"', '"'), ('/', '/'),
    ('\\', '\\'), ('N', '\u0085'), ('_', '\u00a0'), ('L', '\u2028'), ('P', '\u2029')].lookup c

def codeLength? (c : Char) : Option Nat := [('x', 2), ('u', 4), ('U', 8)].lookup c

def codeChar? (n : Nat) (gs : List Glyph) : Option Char := do
  let digits := Glyph.text (gs.take n)
  let code ← Text.hexNumber? digits
  if digits.length = n ∧ code.isValidChar then some (Char.ofNat code) else none

def readSingle (read : List Char) (gap : Gap) : List Glyph → Option (List Char × List Glyph)
  | [] => none
  | [g] => if g.char = '\'' then some ((gap.folded ++ read).reverse, []) else none
  | g :: h :: rest =>
    if Glyph.startsDocumentBoundary (g :: h :: rest) then none
    else if g.isSpacing then readSingle read (gap.push g) (h :: rest)
    else if g.char = '\'' then
      if h.char = '\'' then readSingle ('\'' :: (gap.folded ++ read)) .empty rest
      else some ((gap.folded ++ read).reverse, h :: rest)
    else readSingle (g.char :: (gap.folded ++ read)) .empty (h :: rest)

def readDouble (read : List Char) (gap : Gap) : List Glyph → Option (List Char × List Glyph)
  | [] => none
  | [g] => if g.char = '"' then some ((gap.folded ++ read).reverse, []) else none
  | g :: h :: rest =>
    if Glyph.startsDocumentBoundary (g :: h :: rest) then none
    else if g.isSpacing then readDouble read (gap.push g) (h :: rest)
    else if g.char = '"' then some ((gap.folded ++ read).reverse, h :: rest)
    else if g.char = '\\' then
      if h.isBreak then readDouble (gap.folded ++ read) .escapedBreak rest
      else
        match escaped? h.char, codeLength? h.char with
        | some c, _ => readDouble (c :: (gap.folded ++ read)) .empty rest
        | none, some n =>
          match codeChar? n rest with
          | some c => readDouble (c :: (gap.folded ++ read)) .empty (rest.drop n)
          | none => none
        | none, none => none
    else readDouble (g.char :: (gap.folded ++ read)) .empty (h :: rest)
termination_by gs => gs.length
decreasing_by all_goals (simp; try omega)

end ExceptionStubs.Yaml.Quoted
