import WorkspaceImport.Aspect.Variant
/-!
Running the build tool. An executor takes a command and answers with what the process printed, or
with what kept it from running; the invoker words the failures and cuts the output into lines.
A run that ends with an exit code other than zero is no failure.
-/
namespace WorkspaceImport

structure Command where
  words : List String
  directory : String
  timeout : Value

structure Output where
  exitCode : Int
  stdout : String
  stderr : String
  deriving DecidableEq

inductive LaunchFault where
  | missing (detail : LaunchDetail)
  | refused (detail : LaunchDetail)
  | timedOut
  | broken
  | unreadable (fault : Text.Utf8Fault)
  | nothing
  | unusable (fault : CommandFault)

abbrev Executor := Command → Except LaunchFault Output

namespace Output

/-- The lines of the error stream, where the tool lists its artifacts, and then those of the other. -/
def lines (o : Output) : List String :=
  Text.lines o.stderr ++ Text.lines o.stdout

def success (o : Output) : Bool :=
  o.exitCode == 0

end Output

structure Invocation where
  lines : List String
  exitCode : Int
  deriving DecidableEq

def Invocation.success (i : Invocation) : Bool :=
  i.exitCode == 0

/-- The build tool, by the name of its executable. A name in bytes is kept, but no command can have
it among its words. -/
structure Invoker where
  executable : Value
  timeout : Value

namespace Invoker

def ofConfig (executable timeout : Value) : Except Failure Invoker :=
  if executable.isFalsy then .error (.config .noExecutable)
  else
    match executable.stripped? with
    | none => .error (.kind .notText)
    | some plain =>
      if plain.isFalsy then .error (.config .noExecutable) else .ok ⟨plain, timeout⟩

def command (tool : Invoker) (name : String) (arguments : List String) (directory : String) :
    Command where
  words := tool.executable.display :: name :: arguments
  directory := directory
  timeout := tool.timeout

def launchFailure (tool : Invoker) (c : Command) : LaunchFault → Failure
  | .missing detail => .invocation (.missing tool.executable.display detail) .empty
  | .refused detail => .invocation (.refused detail) .empty
  | .timedOut => .invocation (.timedOut tool.timeout c.words) .empty
  | .broken | .nothing => .toolBroken
  | .unreadable fault => .read (.encoding fault)
  | .unusable fault => .unusable fault

def endNote (name : String) (exitCode : Int) (lineCount : Nat) : Note :=
  if exitCode = 0 then .finished name lineCount else .exited name exitCode lineCount

/-- Running a command of the tool, and keeping of its lines what the filter makes of them. -/
def run (tool : Invoker) (executor : Executor) (name : String) (arguments : List String)
    (directory : String) (keep? : String → Option String) : Reported Invocation :=
  let c := tool.command name arguments directory
  if tool.executable.text?.isNone then ⟨[], .error (.kind .notWord)⟩
  else
    match executor c with
    | .error fault => ⟨[.running c.words directory], .error (tool.launchFailure c fault)⟩
    | .ok output =>
      let lines := output.lines.filterMap keep?
      ⟨[.running c.words directory, endNote name output.exitCode lines.length],
        .ok ⟨lines, output.exitCode⟩⟩

end Invoker

/-- An executor that answers by the last word of the command, from a table of answers. -/
def Executor.ofTable (table : List (String × Except LaunchFault Output)) : Executor := fun c =>
  match valueAt? (c.words.getLast?.getD "") table with
  | some answer => answer
  | none => .ok ⟨1, "", ""⟩

end WorkspaceImport
