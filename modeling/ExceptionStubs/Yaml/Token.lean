import ExceptionStubs.Yaml.Tag
/-!
# YAML tokens

Indentation appears as tokens of its own: the start of a block and its end. A key that is marked by
the colon behind it alone has its token in front of it all the same.
-/

namespace ExceptionStubs.Yaml

inductive ScalarStyle where
  | plain
  | singleQuoted
  | doubleQuoted
  | literal
  | folded
deriving DecidableEq, Repr

inductive Token where
  | version (major minor : Nat)
  | handle (name : String) (start : List UInt8)
  | documentStart
  | documentEnd
  | blockSequenceStart
  | blockMappingStart
  | blockEnd
  | flowSequenceStart
  | flowSequenceEnd
  | flowMappingStart
  | flowMappingEnd
  | blockEntry
  | flowEntry
  | key
  | value
  | reference (name : String)
  | anchor (name : String)
  | tag (written : Tag.Written)
  | scalar (style : ScalarStyle) (text : String)

namespace Token

def anchorEnds : List Char := "?:,]\x7d%@\x60".toList

def readAnchorName (gs : List Glyph) : Option (String × List Glyph) :=
  let name := gs.takeWhile Glyph.inName
  let rest := gs.dropWhile Glyph.inName
  if name.isEmpty then none
  else if Glyph.startsSpacing rest || rest.head?.any fun g => anchorEnds.contains g.char then
    some (String.ofList (Glyph.text name), rest)
  else none

def readVersionNumber (gs : List Glyph) : Option (Nat × List Glyph) :=
  let digits := Glyph.text (gs.takeWhile (·.char.isDigit))
  if digits.isEmpty || 9 < digits.length then none
  else some (digits.foldl (fun n c => 10 * n + (c.toNat - '0'.toNat)) 0,
    gs.dropWhile (·.char.isDigit))

def readVersion (gs : List Glyph) : Option (Token × List Glyph) := do
  let (major, rest) ← readVersionNumber (Glyph.dropBlanks gs)
  if !Glyph.startsWith '.' rest then none
  let (minor, rest) ← readVersionNumber (rest.drop 1)
  return (version major minor, rest)

def readHandleDeclaration (gs : List Glyph) : Option (Token × List Glyph) := do
  let (name, rest) ← Tag.readHandle (Glyph.dropBlanks gs)
  if !(Tag.isClosedHandle name || name == ['!']) then none
  if !rest.head?.any Glyph.isBlank then none
  let (start, rest) ← Tag.readSuffix true false (Glyph.dropBlanks rest)
  if !Glyph.startsSpacing rest then none
  return (handle (String.ofList name) start, rest)

def readDirective (gs : List Glyph) : Option (Token × List Glyph) := do
  let name := Glyph.text (gs.takeWhile Glyph.inName)
  let rest := gs.dropWhile Glyph.inName
  if !Glyph.startsSpacing rest then none
  let (token, rest) ←
    if name == "YAML".toList then readVersion rest
    else if name == "TAG".toList then readHandleDeclaration rest
    else none
  return (token, ← Glyph.dropLineEnd? rest)

end Token

end ExceptionStubs.Yaml
