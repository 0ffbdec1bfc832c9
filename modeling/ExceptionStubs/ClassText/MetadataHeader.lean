import ExceptionStubs.ClassText.Timestamp
/-!
# The metadata header

An annotation that says which program generated a class, when and for which package. It does not
change what the class does.
-/

namespace ExceptionStubs

def programName : String := "throwgen"

def programVersion : String := "0.1.0"

/-- The time at which the classes of a run are stamped. -/
structure MetadataHeader where
  stamped : Timestamp
deriving DecidableEq, Repr

namespace MetadataHeader

def timestamp (h : MetadataHeader) : String := h.stamped.render

def annotation (h : MetadataHeader) (package : String) : String :=
  "@javax.annotation.processing.Generated(value = \"" ++ programName ++ "\", date = \"" ++
    h.timestamp ++ "\", comments = \"version " ++ programVersion ++ "; package " ++ package ++ "\")"

/-- The header line of a class that comes from a package; empty without a header. -/
def line (header : Option MetadataHeader) (package : String) : String :=
  (header.map fun h => h.annotation package).getD ""

end MetadataHeader

end ExceptionStubs
