/-!
# YAML text with positions

A text is read as a row of glyphs: its characters with their places. Line breaks of every kind
count as one glyph each, and all but the two Unicode separators are replaced by a line feed.
-/

namespace ExceptionStubs.Yaml

/-- A character with its place in the text: how many bytes of UTF-8 and how many lines come before
it, and how many characters come before it in its line. -/
structure Glyph where
  char : Char
  offset : Nat
  line : Nat
  column : Nat
deriving Repr

namespace Glyph

def isBreakChar (c : Char) : Bool :=
  c == '\n' || c == '\r' || c == '\u0085' || c == '\u2028' || c == '\u2029'

/-- The break that a break of some kind is read as. -/
def unifyBreak (c : Char) : Char := if c = '\u2028' ∨ c = '\u2029' then c else '\n'

def ofChars (offset line column : Nat) : List Char → List Glyph
  | [] => []
  | '\r' :: '\n' :: cs => ⟨'\n', offset, line, column⟩ :: ofChars (offset + 2) (line + 1) 0 cs
  | c :: cs =>
    if isBreakChar c then
      ⟨unifyBreak c, offset, line, column⟩ :: ofChars (offset + c.utf8Size) (line + 1) 0 cs
    else ⟨c, offset, line, column⟩ :: ofChars (offset + c.utf8Size) line (column + 1) cs

def ofText (s : String) : List Glyph := ofChars 0 0 0 s.toList

/-- The characters that may occur in a text. -/
def isAllowed (c : Char) : Bool :=
  let n := c.toNat
  n == 0x9 || n == 0xa || n == 0xd || (0x20 ≤ n && n ≤ 0x7e) || n == 0x85 ||
    (0xa0 ≤ n && n ≤ 0xfffd) || 0x10000 ≤ n

def isBreak (g : Glyph) : Bool := isBreakChar g.char

def isByteOrderMark (g : Glyph) : Bool := g.column == 0 && g.char == '\ufeff'

def isBlank (g : Glyph) : Bool := g.char == ' ' || g.char == '\t'

def isSpacing (g : Glyph) : Bool := g.isBlank || g.isBreak

def isNameChar (c : Char) : Bool := c.isAlphanum || c == '_' || c == '-'

def inName (g : Glyph) : Bool := isNameChar g.char

def text (gs : List Glyph) : List Char := gs.map char

def startsWith (c : Char) : List Glyph → Bool
  | [] => false
  | g :: _ => g.char == c

def startsSpacing : List Glyph → Bool
  | [] => true
  | g :: _ => g.isSpacing

def startsIndicator (c : Char) : List Glyph → Bool
  | a :: b :: d :: rest =>
    a.column == 0 && a.char == c && b.char == c && d.char == c && startsSpacing rest
  | _ => false

def startsDocumentBoundary (gs : List Glyph) : Bool :=
  startsIndicator '-' gs || startsIndicator '.' gs

def dropBlanks (gs : List Glyph) : List Glyph := gs.dropWhile isBlank

/-- What is left behind the rest of a line that holds at most blanks and a comment, the break
included. -/
def dropLineEnd? (gs : List Glyph) : Option (List Glyph) :=
  match dropBlanks gs with
  | [] => some []
  | g :: rest =>
    if g.isBreak then some rest
    else if g.char = '#' then some ((rest.dropWhile (!·.isBreak)).drop 1)
    else none

end Glyph

end ExceptionStubs.Yaml
