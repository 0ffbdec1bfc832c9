import ExceptionStubs.Yaml.Glyph
/-!
# Gaps in scalars

Between the words of a scalar stand blanks and line breaks. Blanks within a line are kept. Blanks
around a break are dropped, a single line feed becomes a space, and of several breaks the first one
is dropped if it is a line feed. A break that is escaped is dropped as well.
-/

namespace ExceptionStubs.Yaml

/-- A gap, with its characters last first: blanks within a line, or breaks of which the first one
is kept apart and is absent if it was escaped. -/
inductive Gap where
  | blanks (cs : List Char)
  | breaks (first : Option Char) (more : List Char)

namespace Gap

def empty : Gap := blanks []

def escapedBreak : Gap := breaks none []

def isEmpty : Gap → Bool
  | blanks [] => true
  | _ => false

def isBroken : Gap → Bool
  | blanks _ => false
  | breaks _ _ => true

def push (g : Glyph) : Gap → Gap
  | blanks cs => if g.isBreak then breaks (some g.char) [] else blanks (g.char :: cs)
  | breaks first more => breaks first (if g.isBreak then g.char :: more else more)

/-- What a gap stands for, last character first. -/
def folded : Gap → List Char
  | blanks cs => cs
  | breaks (some '\n') [] => [' ']
  | breaks (some '\n') more => more
  | breaks first more => more ++ first.toList

end Gap

end ExceptionStubs.Yaml
