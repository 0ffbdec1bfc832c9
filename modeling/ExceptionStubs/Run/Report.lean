import ExceptionStubs.ClassText.Artifact
import ExceptionStubs.Consistency.Conflict
import ExceptionStubs.Declaration.Malformed
import ExceptionStubs.Fingerprint
import ExceptionStubs.Json.Basic
import ExceptionStubs.Run.WriteFailure
/-!
# Reports

The report of a run lists what was written and everything that was skipped, with the reasons.
-/

namespace ExceptionStubs

structure ArtifactRecord where
  package : String
  name : String
  contentHash : String
deriving DecidableEq, Repr

namespace ArtifactRecord

def ofArtifact (a : Artifact) : ArtifactRecord := ⟨a.package, a.name, Fingerprint.ofBody a.body⟩

def qualifiedName (a : ArtifactRecord) : String := JavaName.qualify a.package a.name

def toJson (a : ArtifactRecord) : Json :=
  .ofFields
    [("package", .ofString a.package), ("name", .ofString a.name),
      ("content_hash", .ofString a.contentHash)]

end ArtifactRecord

/-- The report of a run. A run that finds nothing claims nothing and has no fingerprint. -/
structure RunReport where
  claimed : Bool
  dryRun : Bool
  artifacts : List ArtifactRecord
  conflicts : List Conflict
  writeFailures : List WriteFailure
  malformed : List Malformed
  inputFingerprint : Option String
deriving DecidableEq, Repr

namespace RunReport

def unclaimed : RunReport := ⟨false, false, [], [], [], [], none⟩

def artifactsWritten (r : RunReport) : Nat := r.artifacts.length

def isClean (r : RunReport) : Bool :=
  r.conflicts.isEmpty && r.writeFailures.isEmpty && r.malformed.isEmpty

def artifact? (r : RunReport) (qualifiedName : String) : Option ArtifactRecord :=
  r.artifacts.find? (·.qualifiedName == qualifiedName)

def reasonJson (key name reason : String) : Json :=
  .ofFields [(key, .ofString name), ("reason", .ofString reason)]

def toJson (r : RunReport) : Json :=
  .ofFields
    [("claimed", .bool r.claimed), ("dry_run", .bool r.dryRun),
      ("artifacts_written", .ofNat r.artifactsWritten),
      ("artifacts", .array (r.artifacts.map ArtifactRecord.toJson)),
      ("conflicts",
        .array (r.conflicts.map fun c => reasonJson "interface_name" c.interface c.message)),
      ("write_failures",
        .array (r.writeFailures.map fun f => reasonJson "target_name" f.target f.message)),
      ("malformed",
        .array (r.malformed.map fun m => reasonJson "declaration" m.declaration m.message)),
      ("input_fingerprint", r.inputFingerprint.elim .null .ofString)]

end RunReport

end ExceptionStubs
