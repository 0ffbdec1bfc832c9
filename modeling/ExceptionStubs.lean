import ExceptionStubs.ClassText.Artifact
import ExceptionStubs.ClassText.ClassTemplates
import ExceptionStubs.ClassText.DateMask
import ExceptionStubs.ClassText.ExceptionClass
import ExceptionStubs.ClassText.Implementation
import ExceptionStubs.ClassText.MetadataHeader
import ExceptionStubs.ClassText.Signature
import ExceptionStubs.ClassText.Template
import ExceptionStubs.ClassText.Timestamp
import ExceptionStubs.Consistency
import ExceptionStubs.Consistency.Component
import ExceptionStubs.Consistency.Conflict
import ExceptionStubs.Declaration
import ExceptionStubs.Declaration.Malformed
import ExceptionStubs.Declaration.Scope
import ExceptionStubs.Declaration.Validation
import ExceptionStubs.DiscoveryError
import ExceptionStubs.ExceptionSpec
import ExceptionStubs.FileSystem
import ExceptionStubs.FileSystem.Path
import ExceptionStubs.FileTree
import ExceptionStubs.FileTree.IoFailure
import ExceptionStubs.Fingerprint
import ExceptionStubs.Group
import ExceptionStubs.JavaName
import ExceptionStubs.Json.Basic
import ExceptionStubs.Json.Number
import ExceptionStubs.Json.Printer
import ExceptionStubs.Json.Reader
import ExceptionStubs.Json.Token
import ExceptionStubs.Log.Line
import ExceptionStubs.Log.Settings
import ExceptionStubs.Main
import ExceptionStubs.MethodRecord
import ExceptionStubs.OrderedMap
import ExceptionStubs.Program
import ExceptionStubs.Proofs.Account
import ExceptionStubs.Proofs.Attempts
import ExceptionStubs.Proofs.ClassText
import ExceptionStubs.Proofs.Delivery
import ExceptionStubs.Proofs.ExceptionSpec
import ExceptionStubs.Proofs.Group
import ExceptionStubs.Proofs.Isolation
import ExceptionStubs.Proofs.JavaName
import ExceptionStubs.Proofs.MemorySink
import ExceptionStubs.Proofs.OrderedMap
import ExceptionStubs.Proofs.StrictShapes
import ExceptionStubs.Proofs.Verdict
import ExceptionStubs.Run
import ExceptionStubs.Run.Build
import ExceptionStubs.Run.ClaimLedger
import ExceptionStubs.Run.Diagnostic
import ExceptionStubs.Run.Event
import ExceptionStubs.Run.Phase
import ExceptionStubs.Run.Plan
import ExceptionStubs.Run.Report
import ExceptionStubs.Run.WriteFailure
import ExceptionStubs.Settings
import ExceptionStubs.Settings.Arguments
import ExceptionStubs.Settings.ConfigFile
import ExceptionStubs.Sha256
import ExceptionStubs.Sink
import ExceptionStubs.Sink.Directory
import ExceptionStubs.Sink.Error
import ExceptionStubs.Sink.Faulty
import ExceptionStubs.Sink.Memory
import ExceptionStubs.Snapshot.File
import ExceptionStubs.Snapshot.Json
import ExceptionStubs.Snapshot.Yaml
import ExceptionStubs.Target
import ExceptionStubs.Text.Blank
import ExceptionStubs.Text.Hexadecimal
import ExceptionStubs.Text.LowerCase
import ExceptionStubs.Text.LowerCase.Table
import ExceptionStubs.Text.Quoted
import ExceptionStubs.Text.Quoted.Table
import ExceptionStubs.Text.Split
import ExceptionStubs.Yaml.CoreScalar
import ExceptionStubs.Yaml.Event
import ExceptionStubs.Yaml.Glyph
import ExceptionStubs.Yaml.Node
import ExceptionStubs.Yaml.Reading
import ExceptionStubs.Yaml.Scalar.Block
import ExceptionStubs.Yaml.Scalar.Gap
import ExceptionStubs.Yaml.Scalar.Plain
import ExceptionStubs.Yaml.Scalar.Quoted
import ExceptionStubs.Yaml.Tag
import ExceptionStubs.Yaml.Token
import ExceptionStubs.Yaml.Token.Reader
import ExceptionStubs.Proofs.Rearrangement
import ExceptionStubs.Proofs.MetadataHeader
import ExceptionStubs.Proofs.DateMask
import ExceptionStubs.Proofs.Diagnostics
import ExceptionStubs.Proofs.Restamping
import ExceptionStubs.Proofs.ShapePolicies
import ExceptionStubs.Proofs.FileTree
import ExceptionStubs.Proofs.SourcePath
import ExceptionStubs.Proofs.FileSystem
import ExceptionStubs.Proofs.DirectorySink
import ExceptionStubs.Proofs.SinkAgreement
import ExceptionStubs.Proofs.Interleaving
import ExceptionStubs.Proofs.Repetition
import ExceptionStubs.Proofs.Acceptance
import ExceptionStubs.Proofs.ReportedDiagnostics
import ExceptionStubs.Proofs.OptionalHeader
import ExceptionStubs.Proofs.Split
import ExceptionStubs.Proofs.PhaseTrace
import ExceptionStubs.Proofs.Faults
import ExceptionStubs.Proofs.Contribution
import ExceptionStubs.Proofs.FingerprintEncoding
import ExceptionStubs.Proofs.FingerprintedOutput
import ExceptionStubs.Proofs.JsonToken
import ExceptionStubs.Proofs.JsonText
import ExceptionStubs.Proofs.SnapshotText
import ExceptionStubs.Proofs.DatelessText
import ExceptionStubs.Proofs.ThrownException
import ExceptionStubs.Proofs.HashedText
import ExceptionStubs.Proofs.NameResolution
import ExceptionStubs.Proofs.ImportLines
import ExceptionStubs.Proofs.Consistency
import ExceptionStubs.Proofs.MaskedPieces
import ExceptionStubs.Proofs.ClaimLedger
import ExceptionStubs.Proofs.ShelfHistory
import ExceptionStubs.Proofs.ExceptionSpelling
import ExceptionStubs.Proofs.Signature
import ExceptionStubs.Proofs.QualifiedTarget
import ExceptionStubs.Proofs.FaultySink
