import ExceptionStubs.DiscoveryError
import ExceptionStubs.FileSystem
import ExceptionStubs.Log.Line
import ExceptionStubs.Snapshot.Yaml
/-!
# Snapshot files

The extension of a file tells its format. Declarations are asked for by the kind of their marker,
from a snapshot or from any other source.
-/

namespace ExceptionStubs

/-- A source of declarations, asked for by the kind of their marker. -/
abbrev DeclarationSource := MarkerKind → Except DiscoveryError (List Declaration)

namespace Snapshot

def source (s : Snapshot) : DeclarationSource := fun kind => .ok (s.marked kind)

/-- The snapshot in a text of either format; `origin` says where the text is from. -/
def ofText (read? : String → Option Snapshot) (origin text : String) :
    Except DiscoveryError Snapshot :=
  match read? text with
  | some s => .ok s
  | none => .error (.parse origin)

def reader? (extension : String) : Option (String → Option Snapshot) :=
  [("yaml", ofYamlText?), ("yml", ofYamlText?), ("json", ofJsonText?)].lookup extension

def load (fs : FileSystem) (path : String) : Except DiscoveryError Snapshot :=
  match fs.readText path with
  | .error cause => .error (.io path cause)
  | .ok text =>
    match reader? (Path.lowerExtension path) with
    | none => .error (.unsupportedFormat path)
    | some read? => ofText read? path text

def loadedLine (path : String) (s : Snapshot) : LogLine :=
  .plain .debug "loaded marker snapshot"
    [("path", path), ("declarations", toString s.declarations.length)]

end Snapshot

end ExceptionStubs
