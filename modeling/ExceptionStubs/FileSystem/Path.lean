import ExceptionStubs.Text.Split
/-!
# Paths

A path is a text whose components stand between slashes. Empty components and single dots mean
nothing, and two dots lead back to the directory before. A path with a slash in front starts at the
root, every other one in the working directory.
-/

namespace ExceptionStubs.Path

def isAbsolute (path : String) : Bool := path.toList.head? = some '/'

def separator (path : String) : String :=
  if path.isEmpty || path.toList.getLast? = some '/' then "" else "/"

/-- The path with one more component. An absolute path takes its place. -/
def push (path component : String) : String :=
  if isAbsolute component then component else path ++ separator path ++ component

/-- All components, also those that mean nothing. -/
def components (path : String) : List String := Text.split '/' path

/-- The components that mean something, two dots included. -/
def segments (path : String) : List String :=
  (components path).filter fun c => !c.isEmpty && c != "."

/-- The last component of a path, unless it leads back. -/
def fileName? (path : String) : Option String := (segments path).getLast?.filter (· != "..")

/-- What stands behind the last dot of the file name, unless nothing stands before that dot. -/
def extension? (path : String) : Option String :=
  match (fileName? path).bind (Text.cutLast '.') with
  | some (stem, extension) => if stem.isEmpty then none else some extension
  | none => none

def lowerExtension (path : String) : String :=
  String.ofList (((extension? path).getD "").toList.map Char.toLower)

end ExceptionStubs.Path
