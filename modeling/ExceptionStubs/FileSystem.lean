import ExceptionStubs.FileSystem.Path
import ExceptionStubs.FileTree
/-!
# File systems

A file system is a file tree with a working directory, where relative paths start. A path leads from
directory to directory, so the name before two dots has to be there even though they lead back from
it. Names and paths may be limited in length.
-/

namespace ExceptionStubs

/-- How many bytes of UTF-8 a name and a path may have at most, where that is limited. -/
structure LengthLimits where
  name : Option Nat
  path : Option Nat

namespace LengthLimits

def unlimited : LengthLimits := ⟨none, none⟩

/-- What file systems commonly allow. -/
def common : LengthLimits := ⟨some 255, some 4095⟩

def exceeded (limit : Option Nat) (s : String) : Bool := limit.any (· < s.utf8ByteSize)

end LengthLimits

structure FileSystem where
  tree : FileTree
  working : List String
  limits : LengthLimits

namespace FileSystem

/-- Nothing but a working directory, whose name cannot be written in a path. -/
def empty (limits : LengthLimits) : FileSystem := ⟨.directory [("", .empty)], [""], limits⟩

def start (fs : FileSystem) (path : String) : List String :=
  if Path.isAbsolute path then [] else fs.working

/-- The place that a component leads to from a directory. There need not be anything. -/
def follow (fs : FileSystem) (place : List String) (component : String) :
    Except IoFailure (List String) := do
  match ← fs.tree.find place with
  | .file _ => throw .notADirectory
  | .directory _ =>
    if component.isEmpty || component == "." then return place
    else if component == ".." then return place.dropLast
    else if LengthLimits.exceeded fs.limits.name component then throw .nameTooLong
    else return place ++ [component]

def checkPath (fs : FileSystem) (path : String) : Except IoFailure Unit :=
  if path.toList.contains '\x00' then .error .nullInPath
  else if LengthLimits.exceeded fs.limits.path path then .error .nameTooLong
  else .ok ()

/-- The place that a path leads to. There need not be anything, but everything before is there. The
empty path leads nowhere. -/
def resolve (fs : FileSystem) (path : String) : Except IoFailure (List String) := do
  fs.checkPath path
  if path.isEmpty then throw .notFound
  (Path.components path).foldlM fs.follow (fs.start path)

def find (fs : FileSystem) (path : String) : Except IoFailure FileTree := do
  fs.tree.find (← fs.resolve path)

def hasPath (fs : FileSystem) (path : String) : Bool :=
  match fs.find path with
  | .ok _ => true
  | .error _ => false

def hasDirectory (fs : FileSystem) (path : String) : Bool :=
  match fs.find path with
  | .ok found => found.isDirectory
  | .error _ => false

def hasFile (fs : FileSystem) (path : String) : Bool :=
  match fs.find path with
  | .ok found => !found.isDirectory
  | .error _ => false

def read (fs : FileSystem) (path : String) : Except IoFailure ByteArray := do
  match ← fs.find path with
  | .directory _ => throw .isADirectory
  | .file content => return content

def readText (fs : FileSystem) (path : String) : Except IoFailure String := do
  match String.fromUTF8? (← fs.read path) with
  | none => throw .invalidText
  | some text => return text

def update (fs : FileSystem) (t : Except IoFailure FileTree) : Except IoFailure FileSystem :=
  t.map fun t => { fs with tree := t }

/-- Creates the directories along a row of components from a place on. Those that are there are
kept, and those that were created stay even if a later one cannot be. -/
def createFrom (fs : FileSystem) (place : List String) :
    List String → Except IoFailure Unit × FileSystem
  | [] => (.ok (), fs)
  | component :: components =>
    match fs.follow place component with
    | .error failure => (.error failure, fs)
    | .ok next =>
      match fs.tree.find next with
      | .ok (.directory _) => fs.createFrom next components
      | .ok (.file _) => (.error .fileExists, fs)
      | .error _ =>
        match fs.update (FileTree.put .empty next fs.tree) with
        | .error failure => (.error failure, fs)
        | .ok fs' => fs'.createFrom next components

/-- Creates the directories along a row of components from a place on, unless they lead through
something that is there but no directory. -/
def createAlong (fs : FileSystem) (place components : List String) :
    Except IoFailure Unit × FileSystem :=
  match components.foldlM fs.follow place with
  | .ok _ | .error .notFound => fs.createFrom place components
  | .error failure => (.error failure, fs)

def createDirectories (fs : FileSystem) (path : String) : Except IoFailure Unit × FileSystem :=
  match fs.checkPath path with
  | .error failure => (.error failure, fs)
  | .ok () => fs.createAlong (fs.start path) (Path.segments path)

/-- Creates the directory that holds what a path leads to, with those that lead there. -/
def createParent (fs : FileSystem) (path : String) : Except IoFailure Unit × FileSystem :=
  match fs.checkPath path with
  | .error failure => (.error failure, fs)
  | .ok () => fs.createAlong (fs.start path) (Path.segments path).dropLast

/-- The file system with a file behind a path, or with a directory if there is no content, and with
the directories that lead there. -/
def withEntry (path : String) (content : Option ByteArray) (fs : FileSystem) :
    Except IoFailure FileSystem :=
  match content with
  | none =>
    let (result, fs') := fs.createDirectories path
    result.map fun _ => fs'
  | some content => do
    let (result, fs') := fs.createParent path
    result
    fs'.update (FileTree.put (.file content) (← fs'.resolve path) fs'.tree)

def listing (fs : FileSystem) (root : String) : List (String × ByteArray) :=
  match fs.find root with
  | .ok (.directory entries) =>
    ((FileTree.filesOf entries).map fun (place, content) =>
      (place.foldl Path.push root, content)).mergeSort fun a b => decide (a.1 ≤ b.1)
  | _ => []

end FileSystem

end ExceptionStubs
