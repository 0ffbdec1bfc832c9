import ExceptionStubs.ClassText.DateMask
import ExceptionStubs.ExceptionSpec
import ExceptionStubs.MethodRecord
import ExceptionStubs.Sha256
/-!
# Fingerprints

Two runs over the same input can be compared by the fingerprint of the input and by the hashes of
the generated classes. The input is encoded with a NUL behind every field and a line break behind
every spec and record; a class is hashed with the date in its header masked.
-/

namespace ExceptionStubs

namespace Fingerprint

/-- A field with the separator behind it. -/
def field (s : String) : String := s ++ "\x00"

def encodeSpec (s : ExceptionSpec) : String :=
  field "exception" ++ field s.package ++ field s.name ++ s.mode.word ++ "\n"

def encodeParameter (p : Parameter) : String := field (p.typeName ++ " " ++ p.name)

def encodeRecord (r : MethodRecord) : String :=
  field "method" ++ field r.owner.package.text ++ field r.owner.interface.text ++
    field r.methodName.text ++ field r.returnType ++ field r.exceptionType.text ++
    field r.componentModel ++ "".intercalate (r.parameters.toList.map encodeParameter) ++ "\n"

/-- The encoding of the whole input, specs first. -/
def encode (specs : List ExceptionSpec) (records : List MethodRecord) : String :=
  "".intercalate (specs.map encodeSpec) ++ "".intercalate (records.map encodeRecord)

def ofInput (specs : List ExceptionSpec) (records : List MethodRecord) : String :=
  Sha256.hexDigest (encode specs records)

/-- The hash of a class, whatever the date in its header. -/
def ofBody (body : String) : String := Sha256.hexDigest (DateMask.mask body)

end Fingerprint

end ExceptionStubs
