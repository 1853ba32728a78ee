import WorkspaceImport.CommandLine.Options
/-!
What can be asked for on the command line. The options before the command belong to the program; the
words after it are read only when the command is about to run.
-/
namespace WorkspaceImport.CommandLine

inductive CommandName where
  | scan
  | importPackages
  | aspects
  deriving DecidableEq

def CommandName.ofName? : String → Option CommandName
  | "scan" => some .scan
  | "import" => some .importPackages
  | "aspects" => some .aspects
  | _ => none

inductive Subcommand where
  | scan (workspace : String)
  | importPackages (workspace : String) (packages : List String) (output : String)
  | aspects (targets : List String) (workspace : String)
  deriving DecidableEq

structure ProgramOptions where
  configPath : String
  aspectVersion : String
  deriving DecidableEq

inductive Request where
  | version
  | help
  | command (options : ProgramOptions) (name : CommandName) (words : List String)
  deriving DecidableEq

def helpOption : OptionSpec := ⟨"--help", .flag⟩

def versionOption : OptionSpec := ⟨"--version", .flag⟩

def programOptions : List OptionSpec :=
  [⟨"--config", .valued (some 'c')⟩, ⟨"--aspect-version", .valued none⟩, versionOption, helpOption]

def standardConfigPath : String := "bzlimport.yml"

/-- What the words of a command line ask for. Of the options that only show something the first one
counts. -/
def Request.parse (words : List String) : Except UsageFault Request := do
  let parsed ← parseWords programOptions false words
  match parsed.options.find? fun o => o.1 = versionOption.name || o.1 = helpOption.name with
  | some (name, _) => pure (if name = versionOption.name then .version else .help)
  | none =>
    match parsed.arguments with
    | [] => throw .missingCommand
    | name :: rest =>
      match CommandName.ofName? name with
      | none => throw (.unknownCommand name)
      | some known =>
        pure (.command ⟨(parsed.value? "--config").getD standardConfigPath,
          (parsed.value? "--aspect-version").getD ""⟩ known rest)

namespace CommandName

def options : CommandName → List OptionSpec
  | .scan => [helpOption]
  | .importPackages =>
    [⟨"--package", .valued (some 'p')⟩, ⟨"--output", .valued (some 'o')⟩, helpOption]
  | .aspects => [⟨"--workspace", .valued (some 'w')⟩, helpOption]

def standardWorkspace : String := "."

def workspaceIn : List String → Except UsageFault String
  | [] => .ok standardWorkspace
  | [workspace] => .ok workspace
  | _ :: rest => .error (.extraArguments rest)

def parse (name : CommandName) (words : List String) : Except UsageFault (Option Subcommand) := do
  let parsed ← parseWords name.options true words
  if (parsed.value? helpOption.name).isSome then pure none
  else
    match name with
    | .scan => return some (.scan (← workspaceIn parsed.arguments))
    | .importPackages =>
      return some (.importPackages (← workspaceIn parsed.arguments) (parsed.values "--package")
        ((parsed.value? "--output").getD ""))
    | .aspects =>
      if parsed.arguments.isEmpty then throw .missingArgument
      else
        return some (.aspects parsed.arguments
          ((parsed.value? "--workspace").getD standardWorkspace))

end CommandName

end WorkspaceImport.CommandLine
