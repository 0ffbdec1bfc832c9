import ExceptionStubs.FileSystem.Path
import ExceptionStubs.JavaName
import ExceptionStubs.Sink.Error
/-!
# Targets

A target is a package and a class name. Only identifiers are accepted, so the source path of a
target always lies below the root.
-/

namespace ExceptionStubs.Target

def check (package name : String) : Except SinkError Unit :=
  if !JavaName.isIdentifier name then
    .error (.invalidTarget (JavaName.qualify package name) s!"'{name}' is not a valid type name")
  else if package.isEmpty then .ok ()
  else
    match (Text.split '.' package).find? (!JavaName.isIdentifier ·) with
    | some segment =>
      .error (.invalidTarget (JavaName.qualify package name)
        s!"package segment '{segment}' is not an identifier")
    | none => .ok ()

def directories (package : String) : List String :=
  if package.isEmpty then [] else Text.split '.' package

def fileName (name : String) : String := name ++ ".java"

def sourcePath (root package name : String) : Except SinkError String := do
  check package name
  return (directories package ++ [fileName name]).foldl Path.push root

end ExceptionStubs.Target
