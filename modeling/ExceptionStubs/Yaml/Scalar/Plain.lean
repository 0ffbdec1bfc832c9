import ExceptionStubs.Yaml.Scalar.Gap
/-!
# Plain scalars

A scalar without quotes goes on until a colon before a blank, a comment, a line that is not indented
enough or, between brackets, a character that means something there.
-/

namespace ExceptionStubs.Yaml.Plain

def indicators : List Char :=
  ['-', '?', ':', ',', '[', ']', '\x7b', '\x7d', '#', '&', '*', '!', '|', '>', '\'', '"', '%', '@',
    '\x60']

def starts (inFlow : Bool) : List Glyph → Bool
  | [] => false
  | g :: rest =>
    !(g.isSpacing || indicators.contains g.char) ||
      (g.char == '-' && !rest.head?.any Glyph.isBlank) ||
      (!inFlow && (g.char == '?' || g.char == ':') && !Glyph.startsSpacing rest)

def isMisplacedColon (rest : List Glyph) : Bool :=
  rest.head?.any fun g => ",?[]\x7b\x7d".toList.contains g.char

def isEnd (inFlow : Bool) (g : Glyph) (rest : List Glyph) : Bool :=
  (g.char == ':' && Glyph.startsSpacing rest) || (inFlow && ",[]\x7b\x7d".toList.contains g.char)

def isOver (inFlow : Bool) (indent : Int) (gs : List Glyph) : Bool :=
  Glyph.startsDocumentBoundary gs || Glyph.startsWith '#' gs ||
    (!inFlow && gs.head?.any fun g => (g.column : Int) < indent)

structure Result where
  text : List Char
  broken : Bool
  rest : List Glyph

def read (inFlow : Bool) (indent : Int) (read : List Char) (gap : Gap) : List Glyph → Option Result
  | [] => some ⟨read.reverse, gap.isBroken, []⟩
  | g :: rest =>
    if g.isSpacing then
      if gap.isBroken && (g.column : Int) < indent && g.char == '\t' then none
      else Plain.read inFlow indent read (gap.push g) rest
    else if !gap.isEmpty && isOver inFlow indent (g :: rest) then
      some ⟨read.reverse, gap.isBroken, g :: rest⟩
    else if inFlow && g.char == ':' && isMisplacedColon rest then none
    else if isEnd inFlow g rest then some ⟨read.reverse, gap.isBroken, g :: rest⟩
    else Plain.read inFlow indent (g.char :: (gap.folded ++ read)) .empty rest

end ExceptionStubs.Yaml.Plain
