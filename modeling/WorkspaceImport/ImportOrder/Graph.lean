import WorkspaceImport.Package.Node
import WorkspaceImport.PackageInfo
/-!
Which of the selected packages depend on each other. A package depends on another one when a record
that belongs to the first names a target of the second; what is not selected does not count.
-/
namespace WorkspaceImport

abbrev DependencyGraph := OrderedMap String (List String)

namespace ImportOrder

def distinctNodes (seen : List String) : List PackageNode → List PackageNode
  | [] => []
  | n :: rest =>
    if n.isWorkspaceRoot || seen.contains n.name then distinctNodes seen rest
    else n :: distinctNodes (n.name :: seen) rest

def packages (selected : List PackageNode) : List PackageNode :=
  distinctNodes [] selected

def dependedOn (package : String) (infos : List PackageInfo) : List String :=
  (infos.filter fun info => info.package = package).flatMap fun info =>
    info.dependencies.map packageOf

/-- The selected packages that one of them depends on, in the order of the selection. -/
def successors (names : List String) (infos : List PackageInfo) (package : String) : List String :=
  let reached := dependedOn package infos
  names.filter fun name => name ≠ package && reached.contains name

def graph (selected : List PackageNode) (infos : List PackageInfo) : DependencyGraph :=
  let names := (packages selected).map (·.name)
  OrderedMap.ofList (names.map fun name => (name, successors names infos name))

end ImportOrder

end WorkspaceImport
