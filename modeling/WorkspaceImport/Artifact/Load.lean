import WorkspaceImport.Artifact.IdeInfo
import WorkspaceImport.Artifact.Json
import WorkspaceImport.Files.Tree
import WorkspaceImport.Json.Reader
/-!
Reading artifacts from files, one record a file. Legacy artifacts are all needed, so the first one
that cannot be read ends the reading.
-/
namespace WorkspaceImport

inductive ArtifactFault where
  | read (fault : ReadFault)
  | json (fault : Json.Fault) (document : String)
  | jsonRecord (fault : JsonRecordFault)
  | text (fault : TextFormat.Fault)
  | ideInfo (fault : IdeInfoFault)
  | nestedTooDeep

/-- Errors whose wording is not this program's own: those of the system, of the decoder of characters
and of the JSON grammar. -/
inductive ForeignFault where
  | os (error : OsError)
  | encoding (fault : Text.Utf8Fault)
  | json (fault : Json.Fault) (document : String)

abbrev Wording := ForeignFault → String

def ForeignFault.message : Wording
  | .os e => e.message
  | .encoding fault => fault.message
  | .json fault document => fault.message document

def ReadFault.foreign : ReadFault → ForeignFault
  | .os e => .os e
  | .encoding fault => .encoding fault

def ArtifactFault.message (wording : Wording) : ArtifactFault → String
  | .read fault => wording fault.foreign
  | .json fault document => wording (.json fault document)
  | .jsonRecord fault => fault.message
  | .text fault => fault.message
  | .ideInfo fault => fault.message
  | .nestedTooDeep => "maximum recursion depth exceeded"

namespace Artifact

def readJson (files : FileTree) (path : Path) : Except ArtifactFault PackageInfo :=
  match files.readText path with
  | .error fault => .error (.read fault)
  | .ok document =>
    match Json.read document with
    | .error .nestedTooDeep => .error .nestedTooDeep
    | .error (.fault fault) => .error (.json fault document)
    | .ok data =>
      match PackageInfo.ofJson data with
      | .error fault => .error (.jsonRecord fault)
      | .ok info => .ok info

def readIdeInfo (files : FileTree) (path : Path) : Except ArtifactFault PackageInfo :=
  match files.readText path with
  | .error fault => .error (.read fault)
  | .ok document =>
    match TextFormat.parse document with
    | .error (.stop .nestedTooDeep) => .error .nestedTooDeep
    | .error fault => .error (.text fault)
    | .ok m =>
      match PackageInfo.ofIdeInfo m with
      | .error fault => .error (.ideInfo fault)
      | .ok info => .ok info

/-- The records of legacy artifacts in the order of the files, or the first file that has none. -/
def readAllJson (files : FileTree) (paths : List Path) :
    Except (Path × ArtifactFault) (List PackageInfo) :=
  paths.mapM fun path => (readJson files path).mapError fun fault => (path, fault)

end Artifact

end WorkspaceImport
