import WorkspaceImport.Failure
import WorkspaceImport.Package.Node
/-!
Finding the packages of a workspace. A directory with a build file is a package; it hangs under the
nearest package above it, or under the root of the workspace. Directories are taken in the order of
their names, and hidden directories and the output directories of the build tool are left out. A
directory whose path is too long cannot be listed and counts for nothing, and a workspace with too many
directories inside each other cannot be scanned at all.
-/
namespace WorkspaceImport.Package

def buildFileNames : List String :=
  ["BUILD", "BUILD.bazel"]

def workspaceFileNames : List String :=
  ["WORKSPACE", "WORKSPACE.bazel", "MODULE.bazel"]

def isSkipped (name : String) : Bool :=
  ['.'].isPrefixOf name.toList || "bazel-".toList.isPrefixOf name.toList

def holdsFile (names : List String) (children : List (String × Entry)) : Bool :=
  children.any fun c => names.contains c.1 && !c.2.isDirectory

def childPath (path name : String) : String :=
  if path.isEmpty then name else path ++ "/" ++ name

def isReached (root : Path) (path : String) : Bool :=
  (root.join (Path.ofString path)).text.utf8ByteSize ≤ FileTree.pathLimit

def inOrder (parts : List (String × List PackageNode)) : List PackageNode :=
  (parts.mergeSort fun a b => decide (a.1 ≤ b.1)).flatMap (·.2)

mutual

/-- The packages in an entry: its own node over those found below, or only these. -/
def packagesIn (root : Path) (path : String) : Entry → List PackageNode
  | .file _ => []
  | .directory children =>
    if isReached root path then
      let nested := inOrder (packagesBelow root path children)
      if path ≠ "" ∧ holdsFile buildFileNames children then [⟨"//" ++ path, root, path, nested⟩]
      else nested
    else []

/-- The packages in each child that is not left out, beside the name of the child. -/
def packagesBelow (root : Path) (path : String) :
    List (String × Entry) → List (String × List PackageNode)
  | [] => []
  | (name, child) :: rest =>
    if isSkipped name then packagesBelow root path rest
    else (name, packagesIn root (childPath path name) child) :: packagesBelow root path rest

end

mutual

/-- How many directories inside each other are listed, an entry itself included. -/
def levels (root : Path) (path : String) : Entry → Nat
  | .file _ => 0
  | .directory children => if isReached root path then levelsBelow root path children + 1 else 0

def levelsBelow (root : Path) (path : String) : List (String × Entry) → Nat
  | [] => 0
  | (name, child) :: rest =>
    if isSkipped name then levelsBelow root path rest
    else max (levels root (childPath path name) child) (levelsBelow root path rest)

end

def treeOf (root : Path) (e : Entry) : PackageNode :=
  ⟨"//", root, "", packagesIn root "" e⟩

/-- Whether one of the names is a file in a directory. The names are asked for in order, up to the
first that is one. -/
def anyFile (files : FileTree) (directory : Path) : List String → Except OsError Bool
  | [] => .ok false
  | name :: rest => do
    if ← files.isFile (directory.join (Path.ofString name)) then pure true
    else anyFile files directory rest

/-- The tree of a workspace on disk, found with at most `depth` directories listed inside each other;
`root` is absolute. -/
def scanWithin (depth : Nat) (files : FileTree) (root : Path) : Reported PackageNode :=
  match anyFile files root workspaceFileNames, files.lookup root with
  | .error e, _ => ⟨[], .error (.read (.os e))⟩
  | .ok true, .ok e =>
    if levels root "" e ≤ depth then
      let tree := treeOf root e
      ⟨[.scanned root (tree.walk.length - 1)], .ok tree⟩
    else ⟨[], .error .nestedTooDeep⟩
  | .ok _, _ => ⟨[], .error (.config (.notWorkspace root))⟩

def scan (files : FileTree) (root : Path) : Reported PackageNode :=
  scanWithin nestingLimit files root

end WorkspaceImport.Package
