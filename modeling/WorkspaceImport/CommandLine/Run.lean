import WorkspaceImport.CommandLine.Print
import WorkspaceImport.CommandLine.Request
import WorkspaceImport.Config.Load
import WorkspaceImport.Manifest
import WorkspaceImport.Session
/-!
Running a command line: what is printed, how it ends, and the files afterwards. Each run has a session
of its own, so that nothing is remembered from one run to the next.
-/
namespace WorkspaceImport.CommandLine

inductive Ending where
  | finished
  | misused (fault : UsageFault)
  | failed (failure : Failure)

namespace Ending

def exitCode : Ending → Nat
  | .finished => 0
  | .misused _ => 2
  | .failed _ => 1

def wording : Wording := ForeignFault.message

def errorText? : Ending → Option String
  | .failed failure =>
    failure.code?.map fun code =>
      printable ("Error: [" ++ code ++ "] " ++ failure.message wording)
  | _ => none

end Ending

structure Result where
  printed : List String
  ending : Ending
  files : FileTree
  session : Option Session

namespace Result

def output (r : Result) : String :=
  String.join (r.printed.map fun line => printable line ++ "\n")

def events (r : Result) : List Event :=
  r.session.elim [] fun s => s.eventsSince 0

end Result

def programName : String := "main"

def programVersion : String := "0.3.0"

def helpLines : List String :=
  ["Usage: " ++ programName ++ " [OPTIONS] COMMAND [ARGS]...", "",
    "  scan [WORKSPACE]", "  import [-p PACKAGE]... [-o FILE] [WORKSPACE]",
    "  aspects [-w WORKSPACE] TARGETS..."]

def configuration (files : FileTree) (options : ProgramOptions) : Except Failure Config := do
  let config ← (Config.load files options.configPath).outcome
  if options.aspectVersion.isEmpty then pure config
  else
    let config := { config with aspectVersion := .text options.aspectVersion }
    config.validate
    pure config

def hasSources (around : Surroundings) (n : PackageNode) : Session.Op Bool := do
  try
    let _ ← Session.layout around n
    pure true
  catch failure =>
    match failure with
    | .input _ => pure false
    | other => throw other

def namedPackages (root : PackageNode) : List String → Session.Op (List PackageNode)
  | [] => pure []
  | name :: rest => do
    match root.find? name with
    | none => throw (.input (.unknownPackage name))
    | some n => return n :: (← namedPackages root rest)

def selection (around : Surroundings) (root : PackageNode) (names : List String) :
    Session.Op (List PackageNode) :=
  if names.isEmpty then
    (root.walk.filter fun n => !n.isWorkspaceRoot).filterM (hasSources around)
  else namedPackages root names

def importProjects (around : Surroundings) (names : List String) : Session.Op (List Project) := do
  let root ← Session.scan around
  let selected ← selection around root names
  Session.importPackages around .idle root selected

def resolveTargets (around : Surroundings) (targets : List String) : Session.Op Report := do
  let root := (← get).root
  Session.resolveReport around .idle ⟨root.name, "cli"⟩ targets

def resultOf {α : Type} (around : Surroundings) (session : Session) (op : Session.Op α)
    (lines : α → List String) : Result :=
  match op.run session with
  | .ok a session => ⟨lines a, .finished, around.files, some session⟩
  | .error failure session => ⟨[], .failed failure, around.files, some session⟩

def withManifest (output : String) (ps : List Project) (root : Path) (r : Result) : Result :=
  if output.isEmpty then r
  else
    match FileTree.perform r.files
        (Yaml.save (Path.ofString output) (manifest root ps)) with
    | (.ok _, files) => { r with printed := r.printed ++ ["导入清单: " ++ output], files := files }
    | (.error e, files) => { r with ending := .failed (.write e), files := files }

def runCommand (around : Surroundings) (config : Config) (c : Subcommand) : Result :=
  let session (workspace : String) : Session :=
    .start ⟨.slash, around.files.here⟩ (Path.ofString workspace) config
  match c with
  | .scan workspace => resultOf around (session workspace) (Session.scan around) (treeLines 0)
  | .aspects targets workspace =>
    resultOf around (session workspace) (resolveTargets around targets) reportLines
  | .importPackages workspace names output =>
    let s := session workspace
    match (importProjects around names).run s with
    | .error failure s => ⟨[], .failed failure, around.files, some s⟩
    | .ok ps s => withManifest output ps s.root ⟨projectLines ps, .finished, around.files, some s⟩

/-- Running the words of a command line. The configuration is read before the words of the command
are. -/
def run (around : Surroundings) (words : List String) : Result :=
  let ended (printed : List String) (ending : Ending) : Result :=
    ⟨printed, ending, around.files, none⟩
  match Request.parse words with
  | .error fault => ended [] (.misused fault)
  | .ok .version => ended [programName ++ ", version " ++ programVersion] .finished
  | .ok .help => ended helpLines .finished
  | .ok (.command options name rest) =>
    match configuration around.files options with
    | .error failure => ended [] (.failed failure)
    | .ok config =>
      match name.parse rest with
      | .error fault => ended [] (.misused fault)
      | .ok none => ended helpLines .finished
      | .ok (some command) => runCommand around config command

end WorkspaceImport.CommandLine
