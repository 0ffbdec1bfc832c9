import ExceptionStubs.FileSystem
import ExceptionStubs.Sink
import ExceptionStubs.Target
/-!
# Artifacts in a directory

This sink writes every artifact to its source path below a root. A writer fills a temporary file
beside the target, which takes the place of the target when the writer is finished and is removed
when the writer is given up. The sink can refuse targets that exist.
-/

namespace ExceptionStubs

/-- The temporary file of an artifact and the path that it is for. -/
structure TemporaryFile where
  target : String
  path : String
  temporary : List String

namespace TemporaryFile

/-- A name that no entry has, being longer than all of them. -/
def freshName (entries : List String) : String := ".tmp" ++ "".intercalate entries

def create (target path : String) (fs : FileSystem) :
    Except IoFailure (TemporaryFile × FileSystem) := do
  let parent ← (Path.segments path).dropLast.foldlM fs.follow (fs.start path)
  let temporary := parent ++ [freshName (← fs.tree.find parent).entryNames]
  return (⟨target, path, temporary⟩, ← fs.update (FileTree.put (.file .empty) temporary fs.tree))

def remove (f : TemporaryFile) (fs : FileSystem) : FileSystem :=
  { fs with tree := FileTree.remove f.temporary fs.tree }

def persist (f : TemporaryFile) (fs : FileSystem) : Except IoFailure FileSystem := do
  fs.update (fs.tree.move f.temporary (← fs.resolve f.path))

end TemporaryFile

namespace Sink

def directory (root : String) (overwrite : Bool) : Sink FileSystem TemporaryFile where
  openTarget package name fs :=
    let target := JavaName.qualify package name
    match Target.sourcePath root package name with
    | .error e => (.error e, fs)
    | .ok path =>
      if !overwrite && fs.hasPath path then (.error (.alreadyExists target), fs)
      else
        match fs.createParent path with
        | (.error failure, fs') => (.error (.io target failure.message), fs')
        | (.ok (), fs') =>
          match TemporaryFile.create target path fs' with
          | .error failure => (.error (.io target failure.message), fs')
          | .ok (writer, fs'') => (.ok writer, fs'')
  write chunk writer fs :=
    match fs.update (FileTree.append chunk writer.temporary fs.tree) with
    | .error failure => (.error failure.message, fs)
    | .ok fs' => (.ok writer, fs')
  finish writer fs :=
    match writer.persist fs with
    | .error failure => (.error (.io writer.target failure.message), writer.remove fs)
    | .ok fs' => (.ok (), fs')
  abandon writer fs := writer.remove fs
  location? writer := some writer.path

end Sink

end ExceptionStubs
