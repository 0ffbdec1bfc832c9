import ExceptionStubs.Text.Split
/-!
# Java names

An identifier starts with a letter, goes on with letters and digits, and is not reserved; letters
are the ASCII ones, the underscore and the dollar sign. A package name is empty or a dotted row of
identifiers, a qualified name a dotted row of at least one. Names that were checked are kept in
types of their own.
-/

namespace ExceptionStubs

namespace JavaName

def isLetter (c : Char) : Bool := c.isAlpha || c == '_' || c == '$'

def isLetterOrDigit (c : Char) : Bool := isLetter c || c.isDigit

def reserved : List String :=
  ["abstract", "assert", "boolean", "break", "byte", "case", "catch", "char", "class", "const",
    "continue", "default", "do", "double", "else", "enum", "extends", "final", "finally", "float",
    "for", "goto", "if", "implements", "import", "instanceof", "int", "interface", "long",
    "native", "new", "package", "private", "protected", "public", "return", "short", "static",
    "strictfp", "super", "switch", "synchronized", "this", "throw", "throws", "transient", "try",
    "void", "volatile", "while", "true", "false", "null", "_"]

def hasIdentifierShape : List Char → Bool
  | [] => false
  | c :: cs => isLetter c && cs.all isLetterOrDigit

def isIdentifier (s : String) : Bool := hasIdentifierShape s.toList && !reserved.contains s

def isQualifiedName (s : String) : Bool := (Text.split '.' s).all isIdentifier

/-- The default package, which is empty, or identifiers between dots. -/
def isPackageName (s : String) : Bool := s.isEmpty || isQualifiedName s

/-- A name within a package; the default package leaves it as it is. -/
def qualify (package name : String) : String :=
  if package.isEmpty then name else package ++ "." ++ name

def unqualify? (name : String) : Option (String × String) := Text.cutLast '.' name

def simpleName (name : String) : String :=
  match unqualify? name with
  | some (_, simple) => simple
  | none => name

end JavaName

structure Identifier where
  text : String
  valid : JavaName.isIdentifier text = true
deriving DecidableEq

structure PackageName where
  text : String
  valid : JavaName.isPackageName text = true
deriving DecidableEq

structure QualifiedName where
  text : String
  valid : JavaName.isQualifiedName text = true
deriving DecidableEq

end ExceptionStubs
