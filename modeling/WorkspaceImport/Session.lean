import WorkspaceImport.Config
import WorkspaceImport.Package.Scan
import WorkspaceImport.Script
import WorkspaceImport.Tool
/-!
Sessions. A session makes its parts when they are first needed and keeps them; all parts share one
cache and one registry of projects. The files and the tool are surroundings that may change between
two operations.
-/
namespace WorkspaceImport

inductive Part where
  | scanner
  | invoker
  | aspects
  | projects
  | importer
  deriving DecidableEq

def Part.name : Part → String
  | .scanner => "scanner"
  | .invoker => "invoker"
  | .aspects => "aspects"
  | .projects => "projects"
  | .importer => "importer"

structure AspectRun where
  variant : Variant
  options : List String
  invoker : Invoker
  root : Path

/-- What a session finds around itself. The host may refuse projects by their names. -/
structure Surroundings where
  files : FileTree
  executor : Executor
  accepts : String → Bool

/-- The path of an artifact; relative ones are below the root of the workspace. -/
def AspectRun.artifactPath (r : AspectRun) (line : String) : Path :=
  r.root.join (Path.ofString line)

def AspectRun.command (r : AspectRun) (target : String) : Command :=
  r.invoker.command "build" (r.options ++ [target]) r.root.text

/-- The build tool with the aspect: a run for one target, and the records in the artifacts that it
lists. -/
def AspectRun.tool (r : AspectRun) (s : Surroundings) : Tool := fun _ target =>
  let said := r.invoker.run s.executor "build" (r.options ++ [target]) r.root.text
    r.variant.artifactIn?
  match said.outcome with
  | .error f => ⟨said.notes, .error f⟩
  | .ok invocation =>
    let loaded := r.variant.load s.files (invocation.lines.map r.artifactPath)
    ⟨said.notes ++ loaded.notes, loaded.outcome⟩

structure Session where
  root : Path
  config : Config
  made : List Part
  invoker : Option Invoker
  aspects : Option AspectRun
  tree : Option PackageNode
  world : World Watched

namespace Session

abbrev Op := EStateM Failure Session

def start (here workspace : Path) (config : Config) : Session where
  root := here.resolve workspace
  config := config
  made := []
  invoker := none
  aspects := none
  tree := none
  world := ⟨.empty, [], ⟨.empty, false, .empty⟩⟩

def note (p : Part) : Op Unit :=
  modify fun s => if s.made.contains p then s else { s with made := s.made ++ [p] }

def tell (notes : List Note) : Op Unit :=
  modify fun s => { s with world := s.world.tell notes }

def getInvoker : Op Invoker := do
  let s ← get
  match s.invoker with
  | some tool => pure tool
  | none =>
    match Invoker.ofConfig s.config.bazelExecutable s.config.commandTimeout with
    | .error f => throw f
    | .ok tool =>
      set { s with invoker := some tool }
      note .invoker
      pure tool

/-- The directory of the aspect's rules; a relative one is below the root of the workspace. -/
def aspectDirectory (s : Session) : Except Failure Path :=
  match s.config.aspectDir.text? with
  | none => .error (.kind .notPath)
  | some directory => .ok (s.root.join (Path.ofString directory))

def getAspects : Op AspectRun := do
  let s ← get
  match s.aspects with
  | some run => pure run
  | none =>
    match Variant.ofName s.config.aspectVersion, s.aspectDirectory with
    | .error f, _ => throw f
    | _, .error f => throw f
    | .ok variant, .ok directory =>
      let tool ← getInvoker
      let location : AspectLocation := ⟨directory.text, s.config.aspectLabel.display⟩
      let run : AspectRun := ⟨variant, variant.options location, tool, s.root⟩
      modify fun s => { s with aspects := some run }
      note .aspects
      tell [.variantChosen variant.name]
      pure run

def getImporter : Op AspectRun := do
  if (← get).made.contains .importer then getAspects
  else
    let run ← getAspects
    note .projects
    note .importer
    pure run

def getPart : Part → Op Unit
  | .scanner => note .scanner
  | .invoker => do let _ ← getInvoker
  | .aspects => do let _ ← getAspects
  | .projects => note .projects
  | .importer => do let _ ← getImporter

def scan (around : Surroundings) : Op PackageNode := do
  note .scanner
  let said := Package.scan around.files (← get).root
  tell said.notes
  match said.outcome with
  | .error f => throw f
  | .ok tree =>
    modify fun s => { s with tree := some tree }
    pure tree

def packages (around : Surroundings) : Op PackageNode := do
  match (← get).tree with
  | some tree => pure tree
  | none => scan around

def act {α : Type} (a : Action Watched α) : Op α := fun s =>
  match a s.world with
  | .ok x w => .ok x { s with world := w }
  | .error f w => .error f { s with world := w }

def ask (around : Surroundings) (inquiry : Inquiry) : Op Answer := do
  let run ← getAspects
  act (Script.ask (run.tool around) inquiry)

def clearRecording : Op Unit :=
  act (Script.record fun _ => .empty)

def seen (s : Session) : List Seen :=
  s.world.client.client.events.reverse

def resolveReport (around : Surroundings) (script : Script) (origin : Origin)
    (targets : List String) : Op Report := do
  let run ← getAspects
  let tool := run.tool around
  act (Cache.resolveWithReport tool (script.monitor tool) origin targets)

def layout (around : Surroundings) (n : PackageNode) : Op Layout := do
  let _ ← getImporter
  let s ← get
  match Layout.ofPackage around.files [s.config.srcPath, s.config.testPath] n with
  | .error f => throw f
  | .ok found => pure found

def importPackages (around : Surroundings) (script : Script) (root : PackageNode)
    (selected : List PackageNode) : Op (List Project) := do
  let run ← getImporter
  let s ← get
  let tool := run.tool around
  let setting : ImportSetting := {
    files := around.files
    conventions := [s.config.srcPath, s.config.testPath]
    accepts := around.accepts
    tool := tool }
  act (importWorkspace setting (script.monitor tool) root selected)

def eventsSince (s : Session) (length : Nat) : List Event :=
  (s.world.journal.take (s.world.journal.length - length)).reverse

end Session

end WorkspaceImport
