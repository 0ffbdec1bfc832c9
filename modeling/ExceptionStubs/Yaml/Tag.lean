import ExceptionStubs.Text.Hexadecimal
import ExceptionStubs.Yaml.Glyph
/-!
# YAML tags

A tag is a handle with a suffix, or a verbatim text. Suffixes may hold octets by their numbers, so a
tag is kept as octets; a handle stands for a text in front of the suffix.
-/

namespace ExceptionStubs.Yaml

structure Tag where
  octets : List UInt8
deriving DecidableEq, Repr

namespace Tag

def ofString (s : String) : Tag := ⟨s.toUTF8.toList⟩

def coreStart : String := "tag:yaml.org,2002:"

def core (name : String) : Tag := ofString (coreStart ++ name)

def isLocal (t : Tag) : Bool := t.octets.head? == some 0x21

def localName? (t : Tag) : Option String :=
  if t.isLocal then
    String.fromUTF8?
      (ByteArray.mk (if t.octets.length = 1 then t.octets else t.octets.drop 1).toArray)
  else none

def encode (cs : List Char) : List UInt8 := (String.ofList cs).toUTF8.toList

def width? (octet : Nat) : Option Nat :=
  if octet < 0x80 then some 1
  else if 0xc0 ≤ octet ∧ octet < 0xe0 then some 2
  else if 0xe0 ≤ octet ∧ octet < 0xf0 then some 3
  else if 0xf0 ≤ octet ∧ octet < 0xf8 then some 4
  else none

def readOctet : List Glyph → Option (Nat × List Glyph)
  | p :: a :: b :: rest =>
    if p.char = '%' then (Text.hexNumber? [a.char, b.char]).map (·, rest) else none
  | _ => none

def readContinuation : Nat → List Glyph → Option (List UInt8 × List Glyph)
  | 0, gs => some ([], gs)
  | n + 1, gs => do
    let (octet, rest) ← readOctet gs
    if octet < 0x80 ∨ 0xc0 ≤ octet then none
    let (octets, rest) ← readContinuation n rest
    return (octet.toUInt8 :: octets, rest)

def readEscape (gs : List Glyph) : Option (List UInt8 × List Glyph) := do
  let (octet, rest) ← readOctet gs
  let (octets, rest) ← readContinuation ((← width? octet) - 1) rest
  return (octet.toUInt8 :: octets, rest)

def isSuffixChar (verbatim : Bool) (c : Char) : Bool :=
  Glyph.isNameChar c || ";/?:@&=+$.%!~*'()".toList.contains c ||
    (verbatim && ",[]".toList.contains c)

def readOctets (verbatim : Bool) : Nat → List Glyph → Option (List UInt8 × List Glyph)
  | _, [] => some ([], [])
  | 0, gs => some ([], gs)
  | fuel + 1, g :: rest =>
    if !isSuffixChar verbatim g.char then some ([], g :: rest)
    else do
      let (octets, rest) ←
        if g.char = '%' then readEscape (g :: rest) else some (encode [g.char], rest)
      let (more, rest) ← readOctets verbatim fuel rest
      return (octets ++ more, rest)

/-- Reads a suffix, which may be empty only behind a handle of its own. -/
def readSuffix (verbatim mayBeEmpty : Bool) (gs : List Glyph) : Option (List UInt8 × List Glyph) :=
  if !mayBeEmpty && !(gs.head?.any fun g => isSuffixChar verbatim g.char) then none
  else (readOctets verbatim gs.length gs).map fun (octets, rest) => (octets.takeWhile (· ≠ 0), rest)

/-- Reads an exclamation mark, the name characters behind it and, if there is one, the exclamation
mark behind those. -/
def readHandle : List Glyph → Option (List Char × List Glyph)
  | [] => none
  | g :: rest =>
    if g.char ≠ '!' then none
    else
      let name := '!' :: Glyph.text (rest.takeWhile Glyph.inName)
      match rest.dropWhile Glyph.inName with
      | [] => some (name, [])
      | h :: rest => if h.char = '!' then some (name ++ ['!'], rest) else some (name, h :: rest)

def isClosedHandle (handle : List Char) : Bool := handle.length > 1 && handle.getLast? == some '!'

structure Written where
  handle : String
  suffix : List UInt8

def readShorthand (gs : List Glyph) : Option (Written × List Glyph) := do
  let (handle, rest) ← readHandle gs
  if isClosedHandle handle then
    let (suffix, rest) ← readSuffix false false rest
    return (⟨String.ofList handle, suffix⟩, rest)
  else
    let (octets, rest) ← readSuffix false true rest
    match (encode (handle.drop 1) ++ octets) with
    | [] => return (⟨"", encode ['!']⟩, rest)
    | suffix => return (⟨"!", suffix⟩, rest)

/-- Reads a tag; behind it stands a blank, a break or, between brackets, a comma. -/
def read (inFlow : Bool) (gs : List Glyph) : Option (Written × List Glyph) := do
  let (tag, rest) ←
    match gs with
    | _ :: g :: rest =>
      if g.char = '<' then do
        let (suffix, rest) ← readSuffix true false rest
        if !Glyph.startsWith '>' rest then none
        some (⟨"", suffix⟩, rest.drop 1)
      else readShorthand gs
    | gs => readShorthand gs
  if Glyph.startsSpacing rest || (inFlow && Glyph.startsWith ',' rest) then some (tag, rest)
  else none

def defaultHandles : List (String × List UInt8) :=
  [("!", encode ['!']), ("!!", coreStart.toUTF8.toList)]

def Written.resolve? (handles : List (String × List UInt8)) (w : Written) : Option Tag :=
  if w.handle.isEmpty then some ⟨w.suffix⟩
  else ((handles ++ defaultHandles).lookup w.handle).map fun start => ⟨start ++ w.suffix⟩

end Tag

end ExceptionStubs.Yaml
