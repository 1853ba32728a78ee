import WorkspaceImport.Failure
import WorkspaceImport.Package.Node
/-!
The projects that packages become, and the registry that records them under their names in the order
in which they were made. A recorded project is never changed.
-/
namespace WorkspaceImport

structure Project where
  name : String
  package : String
  packagePath : String
  sourcePaths : List String
  generatedSources : List String
  targets : List String
  references : List String
  isWorkspaceRoot : Bool
  deriving DecidableEq, Inhabited

abbrev Registry := OrderedMap String Project

namespace Project

/-- The shortest name of a directory that becomes part of the name of the workspace's project. -/
def minDirectoryName : Nat := 3

def workspaceName (root : Path) : String :=
  if minDirectoryName ≤ root.name.length then "Bazel Workspace (" ++ root.name ++ ")"
  else "Bazel Workspace"

structure Request where
  name : String
  package : PackageNode
  sourcePaths : List String
  generatedSources : List String
  targets : List String
  references : List String

def ofRequest (r : Request) : Project where
  name := r.name
  package := r.package.name
  packagePath := r.package.relativePath
  sourcePaths := r.sourcePaths
  generatedSources := r.generatedSources
  targets := r.targets
  references := r.references
  isWorkspaceRoot := r.package.isWorkspaceRoot

def sourcesOutside (r : Request) : List String :=
  if r.package.isWorkspaceRoot then []
  else
    r.sourcePaths.filter fun path => !(r.package.relativePath ++ "/").toList.isPrefixOf path.toList

end Project

namespace Registry

/-- The project of a request. A project that is recorded under the name is taken as it is; otherwise
a new one is recorded. -/
def create (projects : Registry) (r : Project.Request) : Reported (Project × Registry) :=
  match projects.get? r.name with
  | some recorded => ⟨[.projectExists r.name], .ok (recorded, projects)⟩
  | none =>
    match Project.sourcesOutside r with
    | path :: more =>
      ⟨[], .error (.input (.sourcesOutside r.package.relativePath (path :: more)))⟩
    | [] =>
      let missing := r.references.filter fun name => !projects.contains name
      let project := Project.ofRequest r
      ⟨(if missing.isEmpty then [] else [.projectsMissing r.name missing]) ++
          [.projectCreated r.name r.references],
        .ok (project, projects.insert r.name project)⟩

end Registry

end WorkspaceImport
