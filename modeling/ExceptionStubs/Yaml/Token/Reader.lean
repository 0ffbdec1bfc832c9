import ExceptionStubs.Yaml.Scalar.Block
import ExceptionStubs.Yaml.Scalar.Plain
import ExceptionStubs.Yaml.Scalar.Quoted
import ExceptionStubs.Yaml.Token
/-!
# Reading YAML tokens

A key is known as such only when its colon is met. Until then the place in front of it is remembered
for every level of brackets, and given up when the line ends or the key gets too long. In a block a
key in the column of the block has to be followed by a colon.
-/

namespace ExceptionStubs.Yaml

/-- A place where a key may have begun: the number of the token that starts there. -/
structure PossibleKey where
  slot : Nat
  required : Bool
  offset : Nat
  line : Nat
  column : Nat

namespace PossibleKey

/-- A key and the blanks behind it span at most so many bytes of UTF-8. -/
def maximalLength : Nat := 1024

/-- What is left of a possible key when the text goes on at a glyph; it is an error if a required
one has to be given up. -/
def refresh? (g : Glyph) : Option PossibleKey → Option (Option PossibleKey)
  | none => some none
  | some k =>
    if k.line < g.line ∨ k.offset + maximalLength < g.offset then
      if k.required then none else some none
    else some (some k)

end PossibleKey

/-- A token with the tokens that were put in front of it later. -/
structure TokenSlot where
  before : List Token
  token : Token

/-- The tokens read so far and what they leave open: the column of the innermost block with those of
the blocks around it, the possible key of the innermost level with those of the levels around it,
and whether a key may begin here. -/
structure TokenReader where
  slots : Array TokenSlot
  indent : Int
  outerIndents : List Int
  possibleKey : Option PossibleKey
  outerKeys : List (Option PossibleKey)
  keyAllowed : Bool

namespace TokenReader

def start : TokenReader := ⟨#[], -1, [], none, [], true⟩

def inFlow (r : TokenReader) : Bool := !r.outerKeys.isEmpty

def push (t : Token) (r : TokenReader) : TokenReader := { r with slots := r.slots.push ⟨[], t⟩ }

def insertAt (slot : Nat) (t : Token) (r : TokenReader) : TokenReader :=
  { r with slots := r.slots.modify slot fun s => { s with before := t :: s.before } }

def tokens (r : TokenReader) : List Token :=
  r.slots.toList.flatMap fun s => s.before ++ [s.token]

def allowKey (allowed : Bool) (r : TokenReader) : TokenReader := { r with keyAllowed := allowed }

/-- Opens a block in a column, unless the innermost block reaches there; `slot` is where it begins
if not here. -/
def openBlock (column : Nat) (slot : Option Nat) (t : Token) (r : TokenReader) : TokenReader :=
  if r.inFlow || (column : Int) ≤ r.indent then r
  else
    let r := { r with indent := column, outerIndents := r.indent :: r.outerIndents }
    match slot with
    | none => r.push t
    | some slot => r.insertAt slot t

/-- Closes the blocks from the innermost one on that start right of a column; `outer` are the
columns of the blocks around it. -/
def closeBlocksFrom (column : Int) (r : TokenReader) : List Int → TokenReader
  | [] => r
  | indent :: outer =>
    if r.indent ≤ column then r
    else
      closeBlocksFrom column ({ r with indent := indent, outerIndents := outer }.push .blockEnd)
        outer

def closeBlocks (column : Int) (r : TokenReader) : TokenReader :=
  if r.inFlow then r else closeBlocksFrom column r r.outerIndents

def dropKey? (r : TokenReader) : Option TokenReader :=
  if r.possibleKey.any (·.required) then none else some { r with possibleKey := none }

def saveKey? (g : Glyph) (r : TokenReader) : Option TokenReader :=
  if r.keyAllowed then do
    let required := !r.inFlow && r.indent == (g.column : Int)
    let r ← r.dropKey?
    return { r with possibleKey := some ⟨r.slots.size, required, g.offset, g.line, g.column⟩ }
  else some r

def refreshKeys? (g : Glyph) (r : TokenReader) : Option TokenReader := do
  return { r with
    possibleKey := ← PossibleKey.refresh? g r.possibleKey
    outerKeys := ← r.outerKeys.mapM (PossibleKey.refresh? g) }

def enterFlow (r : TokenReader) : TokenReader :=
  { r with possibleKey := none, outerKeys := r.possibleKey :: r.outerKeys }

def leaveFlow (r : TokenReader) : TokenReader :=
  match r.outerKeys with
  | [] => r
  | k :: outer => { r with possibleKey := k, outerKeys := outer }

def startNode? (g : Glyph) (r : TokenReader) : Option TokenReader := do
  return (← r.saveKey? g).allowKey false

def openBracket? (g : Glyph) (t : Token) (r : TokenReader) : Option TokenReader := do
  return ((← r.saveKey? g).enterFlow.allowKey true).push t

def closeBracket? (t : Token) (r : TokenReader) : Option TokenReader := do
  return ((← r.dropKey?).leaveFlow.allowKey false).push t

def flowEntry? (r : TokenReader) : Option TokenReader := do
  return ((← r.dropKey?).allowKey true).push .flowEntry

/-- Opens the block that a mark outside of brackets needs, where such a mark may stand. -/
def openBlockAt? (g : Glyph) (t : Token) (r : TokenReader) : Option TokenReader :=
  if r.inFlow then some r
  else if r.keyAllowed then some (r.openBlock g.column none t)
  else none

def blockEntry? (g : Glyph) (r : TokenReader) : Option TokenReader := do
  let r ← r.openBlockAt? g .blockSequenceStart
  return ((← r.dropKey?).allowKey true).push .blockEntry

def key? (g : Glyph) (r : TokenReader) : Option TokenReader := do
  let r ← r.openBlockAt? g .blockMappingStart
  return ((← r.dropKey?).allowKey (!r.inFlow)).push .key

/-- A colon in front of a value; the possible key of this level is one. -/
def value? (g : Glyph) (r : TokenReader) : Option TokenReader :=
  match r.possibleKey with
  | some k =>
    let r := (r.insertAt k.slot .key).openBlock k.column (some k.slot) .blockMappingStart
    some (({ r with possibleKey := none }.allowKey false).push .value)
  | none => do
    let r ← r.openBlockAt? g .blockMappingStart
    return (r.allowKey (!r.inFlow)).push .value

def boundary? (t : Token) (r : TokenReader) : Option TokenReader := do
  return ((← (r.closeBlocks (-1)).dropKey?).allowKey false).push t

/-- Drops blanks, comments, breaks and the byte order marks of lines in front of a token. Tabs are
dropped only where no key may begin. -/
def skip (r : TokenReader) : (comment : Bool) → List Glyph → TokenReader × List Glyph
  | _, [] => (r, [])
  | comment, g :: rest =>
    if g.isBreak then (if r.inFlow then r else r.allowKey true).skip false rest
    else if comment then r.skip true rest
    else if g.isByteOrderMark then r.skip false rest
    else if g.char == ' ' || (g.char == '\t' && (r.inFlow || !r.keyAllowed)) then r.skip false rest
    else if g.char == '#' then r.skip true rest
    else (r, g :: rest)

def scalar? (style : ScalarStyle) (result : Option (List Char × List Glyph)) (r : TokenReader) :
    Option (TokenReader × List Glyph) :=
  result.map fun (text, rest) => (r.push (.scalar style (String.ofList text)), rest)

def readToken? (g : Glyph) (rest : List Glyph) (r : TokenReader) :
    Option (TokenReader × List Glyph) :=
  let gs := g :: rest
  if g.column = 0 ∧ g.char = '%' then do
    let r ← (r.closeBlocks (-1)).dropKey?
    let (token, rest) ← Token.readDirective rest
    return ((r.allowKey false).push token, rest)
  else if Glyph.startsIndicator '-' gs then (r.boundary? .documentStart).map (·, gs.drop 3)
  else if Glyph.startsIndicator '.' gs then (r.boundary? .documentEnd).map (·, gs.drop 3)
  else if g.char = '[' then (r.openBracket? g .flowSequenceStart).map (·, rest)
  else if g.char = '\x7b' then (r.openBracket? g .flowMappingStart).map (·, rest)
  else if g.char = ']' then (r.closeBracket? .flowSequenceEnd).map (·, rest)
  else if g.char = '\x7d' then (r.closeBracket? .flowMappingEnd).map (·, rest)
  else if g.char = ',' then r.flowEntry?.map (·, rest)
  else if g.char = '-' ∧ Glyph.startsSpacing rest then (r.blockEntry? g).map (·, rest)
  else if g.char = '?' ∧ (r.inFlow || Glyph.startsSpacing rest) then (r.key? g).map (·, rest)
  else if g.char = ':' ∧ (r.inFlow || Glyph.startsSpacing rest) then (r.value? g).map (·, rest)
  else if g.char = '*' then do
    let r ← r.startNode? g
    (Token.readAnchorName rest).map fun (name, rest) => (r.push (.reference name), rest)
  else if g.char = '&' then do
    let r ← r.startNode? g
    (Token.readAnchorName rest).map fun (name, rest) => (r.push (.anchor name), rest)
  else if g.char = '!' then do
    let r ← r.startNode? g
    (Tag.read r.inFlow gs).map fun (tag, rest) => (r.push (.tag tag), rest)
  else if g.char = '|' ∧ !r.inFlow then do
    ((← r.dropKey?).allowKey true).scalar? .literal (Block.read true r.indent rest)
  else if g.char = '>' ∧ !r.inFlow then do
    ((← r.dropKey?).allowKey true).scalar? .folded (Block.read false r.indent rest)
  else if g.char = '\'' then do
    (← r.startNode? g).scalar? .singleQuoted (Quoted.readSingle [] .empty rest)
  else if g.char = '"' then do
    (← r.startNode? g).scalar? .doubleQuoted (Quoted.readDouble [] .empty rest)
  else if Plain.starts r.inFlow gs then do
    let r ← r.startNode? g
    let result ← Plain.read r.inFlow (r.indent + 1) [] .empty gs
    (if result.broken then r.allowKey true else r).scalar? .plain (some (result.text, result.rest))
  else none

/-- Reads the tokens of a text, at most `fuel` of them. -/
def readAll : Nat → TokenReader → List Glyph → Option TokenReader
  | 0, _, _ => none
  | fuel + 1, r, gs =>
    match r.skip false gs with
    | (r, []) => (r.closeBlocks (-1)).dropKey?
    | (r, g :: rest) => do
      let r ← r.refreshKeys? g
      let (r, rest) ← (r.closeBlocks g.column).readToken? g rest
      readAll fuel r rest

end TokenReader

namespace Token

/-- The tokens of a text; every one takes at least one glyph. -/
def ofText? (s : String) : Option (List Token) :=
  if s.toList.all Glyph.isAllowed then
    let gs := Glyph.ofText s
    (TokenReader.readAll (gs.length + 1) .start gs).map TokenReader.tokens
  else none

end Token

end ExceptionStubs.Yaml
