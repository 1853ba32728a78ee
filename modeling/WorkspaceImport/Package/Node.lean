import WorkspaceImport.Files.Path
import WorkspaceImport.Text.Quoted
/-!
The tree of packages in a workspace. The node of the workspace itself has the empty path.
-/
namespace WorkspaceImport

structure PackageNode where
  name : String
  workspaceRoot : Path
  relativePath : String
  children : List PackageNode
  deriving Inhabited

namespace PackageNode

def isWorkspaceRoot (n : PackageNode) : Bool :=
  n.relativePath.isEmpty

def directory (n : PackageNode) : Path :=
  n.workspaceRoot.join (Path.ofString n.relativePath)

/-- What follows the last slash of the path; the root of the workspace is named like its directory. -/
def lastSegment (n : PackageNode) : String :=
  if n.isWorkspaceRoot then n.workspaceRoot.name
  else String.ofList (n.relativePath.toList.reverse.takeWhile (· ≠ '/')).reverse

mutual

def walk : PackageNode → List PackageNode
  | ⟨name, root, path, children⟩ => ⟨name, root, path, children⟩ :: walkAll children

def walkAll : List PackageNode → List PackageNode
  | [] => []
  | n :: rest => walk n ++ walkAll rest

end

mutual

/-- The walk of a caller who can go only this many levels down, if that is enough for the tree. -/
def walkWithin (depth : Nat) (n : PackageNode) : Option (List PackageNode) :=
  match depth, n with
  | 0, _ => none
  | depth + 1, ⟨name, root, path, children⟩ => do
    let below ← walkAllWithin depth children
    some (⟨name, root, path, children⟩ :: below)

def walkAllWithin (depth : Nat) (nodes : List PackageNode) : Option (List PackageNode) :=
  match nodes with
  | [] => some []
  | n :: rest => do
    let first ← walkWithin depth n
    let others ← walkAllWithin depth rest
    some (first ++ others)

end

def find? (n : PackageNode) (name : String) : Option PackageNode :=
  n.walk.find? fun m => m.name = name

def shown (n : PackageNode) : String :=
  "BazelPackageNode(" ++ Text.quoted n.name ++ ")"

end PackageNode

end WorkspaceImport
