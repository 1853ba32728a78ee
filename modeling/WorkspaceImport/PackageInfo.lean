import WorkspaceImport.Label
import WorkspaceImport.OrderedMap
/-!
What one artifact of the build tool says about one target.
-/
namespace WorkspaceImport

structure PackageInfo where
  label : String
  sources : List String
  dependencies : List String
  generatedSources : List String
  kind : String
  buildFile : String
  deriving DecidableEq, Inhabited

namespace PackageInfo

def package (info : PackageInfo) : String :=
  packageOf info.label

end PackageInfo

abbrev Records := OrderedMap String PackageInfo

namespace Records

def ofInfos (infos : List PackageInfo) : Records :=
  OrderedMap.ofList (infos.map fun info => (info.label, info))

end Records

end WorkspaceImport
