import ExceptionStubs.JavaName
/-!
# Artifacts

The text of one generated class and the target it goes to.
-/

namespace ExceptionStubs

structure Artifact where
  package : String
  name : String
  body : String
deriving DecidableEq, Repr

def Artifact.qualifiedName (a : Artifact) : String := JavaName.qualify a.package a.name

end ExceptionStubs
