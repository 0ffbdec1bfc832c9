import ExceptionStubs.FileTree.IoFailure
import ExceptionStubs.OrderedMap
/-!
# File trees

A finite tree of directories and regular files. Operations follow a row of names from the top and
say why they cannot. A file that is moved replaces the file at its new place.
-/

namespace ExceptionStubs

inductive FileTree where
  | file (content : ByteArray)
  | directory (entries : List (String × FileTree))

namespace FileTree

def empty : FileTree := directory []

instance : Inhabited FileTree := ⟨empty⟩

def isDirectory : FileTree → Bool
  | file _ => false
  | directory _ => true

def entryNames : FileTree → List String
  | file _ => []
  | directory entries => entries.map Prod.fst

def find : List String → FileTree → Except IoFailure FileTree
  | [], t => .ok t
  | _ :: _, file _ => .error .notADirectory
  | name :: names, directory entries =>
    match OrderedMap.find? name entries with
    | none => .error .notFound
    | some t => find names t

/-- The tree with another one at a place in an existing directory, new or instead of a file. -/
def put (entry : FileTree) : List String → FileTree → Except IoFailure FileTree
  | [], file _ => .ok entry
  | [], directory _ => .error .isADirectory
  | _ :: _, file _ => .error .notADirectory
  | name :: names, directory entries =>
    match OrderedMap.find? name entries with
    | some t => do return directory (OrderedMap.put name (← put entry names t) entries)
    | none =>
      if names.isEmpty then .ok (directory (OrderedMap.put name entry entries))
      else .error .notFound

def remove : List String → FileTree → FileTree
  | _, file content => file content
  | [], t => t
  | [name], directory entries => directory (entries.filter (·.1 != name))
  | name :: names, directory entries =>
    match OrderedMap.find? name entries with
    | some t => directory (OrderedMap.put name (remove names t) entries)
    | none => directory entries

def append (chunk : ByteArray) (place : List String) (t : FileTree) :
    Except IoFailure FileTree := do
  match ← t.find place with
  | directory _ => throw .isADirectory
  | file content => put (file (content ++ chunk)) place t

def move (source destination : List String) (t : FileTree) : Except IoFailure FileTree := do
  match ← t.find source with
  | directory _ => throw .isADirectory
  | file content => return remove source (← put (file content) destination t)

mutual

def files : FileTree → List (List String × ByteArray)
  | file content => [([], content)]
  | directory entries => filesOf entries

def filesOf : List (String × FileTree) → List (List String × ByteArray)
  | [] => []
  | (name, t) :: rest =>
    (files t).map (fun (place, content) => (name :: place, content)) ++ filesOf rest

end

end FileTree

end ExceptionStubs
