import WorkspaceImport.Cache.Resolve
import WorkspaceImport.ImportOrder.Traversal
import WorkspaceImport.Package.Layout
import WorkspaceImport.Project
/-!
Importing packages of a workspace as projects: first the project of the workspace itself, then one
project for every package, dependencies before what depends on them. A failure ends the import;
projects that are recorded by then stay.
-/
namespace WorkspaceImport

/-- What an import changes beside the cache, and what the monitor keeps for itself. -/
structure Importing (τ : Type) where
  projects : Registry
  inProgress : Bool
  client : τ

/-- What an import is given: the files, where sources are by convention, the host that may refuse
projects by their names, and the build tool. -/
structure ImportSetting where
  files : FileTree
  conventions : List Value
  accepts : String → Bool
  tool : Tool

namespace Import

variable {τ : Type}

def tell (notes : List Note) : Action (Importing τ) Unit :=
  modify fun w => w.tell notes

def setInProgress (flag : Bool) (w : World (Importing τ)) : World (Importing τ) :=
  { w with client := { w.client with inProgress := flag } }

def whileInProgress {α : Type} (a : Action (Importing τ) α) : Action (Importing τ) α := fun w =>
  match a (setInProgress true w) with
  | .ok x w => .ok x (setInProgress false w)
  | .error f w => .error f (setInProgress false w)

def createProject (s : ImportSetting) (r : Project.Request) :
    Action (Importing τ) (Option Project) := do
  if s.accepts r.name then
    let said := (← get).client.projects.create r
    tell said.notes
    match said.outcome with
    | .error f => throw f
    | .ok (project, projects) =>
      modify fun w => { w with client := { w.client with projects := projects } }
      pure (some project)
  else pure none

/-- The directories of generated sources of one package, without repetitions of earlier ones. -/
def generatedSources (package : String) (infos : List PackageInfo) : List String :=
  let all := (infos.filter fun info => info.package = package).flatMap (·.generatedSources)
  all.foldl (fun done path => if done.contains path then done else done ++ [path]) []

structure Plan where
  layouts : OrderedMap String Layout
  graph : DependencyGraph
  names : OrderedMap String String
  infos : Records

/-- The project that a package is to become. It refers to the projects of those packages that it
depends on. -/
def Plan.request (plan : Plan) (n : PackageNode) : Project.Request where
  name := (plan.names.get? n.name).getD n.lastSegment
  package := n
  sourcePaths := ((plan.layouts.get? n.name).elim [] (·.sourcePaths))
  generatedSources := generatedSources n.name plan.infos.values
  targets := ((plan.layouts.get? n.name).elim [] (·.targets))
  references := ((plan.graph.get? n.name).getD []).filterMap plan.names.get?

def importPackage (s : ImportSetting) (monitor : Monitor (Importing τ)) (plan : Plan)
    (n : PackageNode) : Action (Importing τ) (Option Project) := do
  if ← monitor.isCanceled then throw (.importCanceled n.name)
  monitor.subTask ("Importing " ++ n.name)
  let project ← createProject s (plan.request n)
  if project.isNone then tell [.packageSkipped n.name]
  monitor.worked 1
  pure project

def importPackages (s : ImportSetting) (monitor : Monitor (Importing τ)) (plan : Plan) :
    List PackageNode → Action (Importing τ) (List Project)
  | [] => pure []
  | n :: rest =>
    if n.isWorkspaceRoot then importPackages s monitor plan rest
    else do
      let project ← importPackage s monitor plan n
      let more ← importPackages s monitor plan rest
      pure (project.toList ++ more)

def ofExcept {α : Type} : Except Failure α → Action (Importing τ) α
  | .ok a => pure a
  | .error f => throw f

def layouts (s : ImportSetting) (packages : List PackageNode) :
    Except Failure (OrderedMap String Layout) := do
  let found ← packages.mapM fun n => do
    return (n.name, ← Layout.ofPackage s.files s.conventions n)
  pure (OrderedMap.ofList found)

def rootRequest (root : PackageNode) : Project.Request :=
  ⟨Project.workspaceName root.workspaceRoot, root, [], [], [], []⟩

def onBehalfOf (project : String) : Origin :=
  ⟨project, "import_workspace"⟩

def run (s : ImportSetting) (monitor : Monitor (Importing τ)) (root : PackageNode)
    (packages : List PackageNode) : Action (Importing τ) (List Project) := do
  let rootName := Project.workspaceName root.workspaceRoot
  tell [.importStarted rootName packages.length]
  match ← createProject s (rootRequest root) with
  | none => throw .rootRefused
  | some rootProject =>
    monitor.subTask "Getting the Aspect Information for targets"
    let layouts ← ofExcept (layouts s packages)
    let targets := layouts.values.flatMap (·.targets)
    let infos ← Cache.resolve s.tool monitor (onBehalfOf rootName) targets
    let ordered ← ofExcept (ImportOrder.order root packages infos.values)
    tell [.ordered (ordered.map (·.name))]
    let plan : Plan := {
      layouts := layouts
      graph := ImportOrder.graph packages infos.values
      names := OrderedMap.ofList (packages.map fun n => (n.name, n.lastSegment))
      infos := infos }
    monitor.subTask "Importing bazel packages"
    let projects ← importPackages s monitor plan ordered
    tell [.importFinished rootName (projects.length + 1)]
    pure (rootProject :: projects)

end Import

/-- Importing selected packages of a workspace. The project of the workspace comes first in the
answer. -/
def importWorkspace {τ : Type} (s : ImportSetting) (monitor : Monitor (Importing τ))
    (root : PackageNode) (selected : List PackageNode) : Action (Importing τ) (List Project) :=
  Import.whileInProgress
    (Import.run s monitor root (selected.filter fun n => !n.isWorkspaceRoot))

end WorkspaceImport
