import ExceptionStubs.Yaml.Glyph
/-!
# Block scalars

A block scalar holds the indented lines below its header. A literal one keeps the line breaks; a
folded one joins lines by spaces, except around lines that start with a blank. The header may fix
the indentation and may ask to strip or to keep the breaks at the end.
-/

namespace ExceptionStubs.Yaml.Block

/-- What becomes of the line breaks at the end: all are dropped, the first one is kept, or all are
kept. -/
inductive Chomping where
  | strip
  | clip
  | keep
deriving DecidableEq

structure Header where
  chomping : Chomping
  increment : Option Nat

def readChomping : List Glyph → Option Chomping × List Glyph
  | [] => (none, [])
  | g :: rest =>
    if g.char = '+' then (some .keep, rest)
    else if g.char = '-' then (some .strip, rest)
    else (none, g :: rest)

def readIncrement : List Glyph → Option (Option Nat × List Glyph)
  | [] => some (none, [])
  | g :: rest =>
    if g.char = '0' then none
    else if g.char.isDigit then some (some (g.char.toNat - '0'.toNat), rest)
    else some (none, g :: rest)

def readHeader (gs : List Glyph) : Option (Header × List Glyph) := do
  let (first, rest) := readChomping gs
  let (increment, rest) ← readIncrement rest
  let (second, rest) := if first.isNone && increment.isSome then readChomping rest else (none, rest)
  return (⟨(first.orElse fun _ => second).getD .clip, increment⟩, ← Glyph.dropLineEnd? rest)

/-- Reads blank lines and the indentation of the first other line; gives the breaks, last first, and
the greatest column that was reached. -/
def readBreaks (breaks : List Char) (column : Nat) :
    List Glyph → Option (List Char × Nat × List Glyph)
  | [] => some (breaks, column, [])
  | g :: rest =>
    if g.char = ' ' then readBreaks breaks column rest
    else if g.char = '\t' then none
    else if g.isBreak then readBreaks (g.char :: breaks) (max column g.column) rest
    else some (breaks, max column g.column, g :: rest)

/-- What was read so far: the text, last character first, the break behind the last line, the
further breaks, last first, and whether the last line starts with a blank. -/
structure Progress where
  text : List Char
  lineEnd : Option Char
  breaks : List Char
  afterBlank : Bool

def Progress.startLine (p : Progress) (literal : Bool) (g : Glyph) : Progress :=
  let joined :=
    if !literal && p.lineEnd == some '\n' && !p.afterBlank && !g.isBlank then
      if p.breaks.isEmpty then [' '] else []
    else p.lineEnd.toList
  ⟨g.char :: (p.breaks ++ joined ++ p.text), none, [], g.isBlank⟩

def Progress.finish (p : Progress) (chomping : Chomping) : List Char :=
  let ending :=
    match chomping with
    | .strip => []
    | .clip => p.lineEnd.toList
    | .keep => p.lineEnd.toList ++ p.breaks.reverse
  p.text.reverse ++ ending

/-- Reads the lines that are indented up to a column; `inLine` tells whether the indentation of the
current line is read. -/
def readLines (literal : Bool) (chomping : Chomping) (indent : Nat) (inLine : Bool)
    (p : Progress) : List Glyph → Option (List Char × List Glyph)
  | [] => some (p.finish chomping, [])
  | g :: rest =>
    if inLine then
      if g.isBreak then
        readLines literal chomping indent false { p with lineEnd := some g.char } rest
      else readLines literal chomping indent true { p with text := g.char :: p.text } rest
    else if g.char == ' ' && g.column < indent then
      readLines literal chomping indent false p rest
    else if g.char == '\t' && g.column < indent then none
    else if g.isBreak then
      readLines literal chomping indent false { p with breaks := g.char :: p.breaks } rest
    else if g.column = indent then
      readLines literal chomping indent true (p.startLine literal g) rest
    else some (p.finish chomping, g :: rest)

def read (literal : Bool) (parent : Int) (gs : List Glyph) : Option (List Char × List Glyph) := do
  let (header, rest) ← readHeader gs
  match header.increment with
  | some n =>
    readLines literal header.chomping (parent.toNat + n) false ⟨[], none, [], false⟩ rest
  | none =>
    let (breaks, column, rest) ← readBreaks [] 0 rest
    let indent := max (max column (parent + 1).toNat) 1
    readLines literal header.chomping indent false ⟨[], none, breaks, false⟩ rest

end ExceptionStubs.Yaml.Block
