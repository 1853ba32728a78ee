import WorkspaceImport.Shell.Evaluate
import WorkspaceImport.Tool
/-!
Running commands over a tree of files. A process starts in its directory with an empty input and is
looked up in the directories of the search path; what it printed has to be text. Whatever else runs
commands takes an executor as a parameter; this is the one to run with where no commands are scripted.
-/
namespace WorkspaceImport.Shell

abbrev Environment := List (String × String)

def enter (files : FileTree) (directory : String) : Except OsCause FileTree :=
  if directory.isEmpty then .error .notFound
  else do
    let place ← files.locate (Path.ofString directory)
    match files.root.get? place with
    | some (.directory _) => pure { files with here := place }
    | _ => throw .notDirectory

def launchFault (cause : OsCause) (path : String) : LaunchFault :=
  let detail := LaunchDetail.os ⟨cause, path⟩
  if cause = .notFound then .missing detail else .refused detail

def standardEnvironment : Environment :=
  [("PATH", "/usr/local/bin:/usr/bin:/bin"), ("HOME", "/root"), ("LANG", "C.UTF-8")]

def commandFault? (words : List String) (directory : String) (environment : Environment) :
    Option CommandFault :=
  let hasNull (s : String) : Bool := s.toList.contains '\x00'
  if environment.any fun e => e.1.toList.contains '=' then some .illegalName
  else if words.any hasNull || hasNull directory ||
      environment.any fun e => hasNull e.1 || hasNull e.2 then some .nullByte
  else none

def startState (files : FileTree) : State where
  files := files
  channels := #[.pipe .empty 0, .pipe .empty 0, .pipe .empty 0]
  streams := [(0, 0), (1, 1), (2, 2)]
  vars := []
  functions := []
  locals := []
  name := ""
  command := ""
  arguments := []
  options := []
  status := 0
  substituted := 0
  traps := []
  documents := []
  nextDocument := 0
  line := 0
  loops := 0
  isSubshell := false
  pendingSignal := none
  jobs := []
  optionPlace := 0

def stepLimit : Nat := 1000000

def writtenTo (s : State) (channel : Nat) : Except LaunchFault String :=
  let bytes : ByteArray :=
    match s.channels[channel]? with
    | some (.pipe bytes _) => bytes
    | _ => .empty
  match Text.decodeUtf8 bytes with
  | .ok text => .ok (Text.unixNewlines text)
  | .error fault => .error (.unreadable fault)

def runProgram (files : FileTree) (environment : Environment) (words : List String)
    (program : String) : Except LaunchFault Output := do
  let environment := environment.map fun e => (spread e.1, spread e.2)
  let action := Run.launch program environment (words.map spread) stepLimit
  let (code, s) : Int × State :=
    match action.run (startState files) with
    | .ok (.exited status) s => (status, s)
    | .ok (.killed signal) s => (-(signal : Int), s)
    | .error stop s => (Run.statusAt s stop, s)
  let out ← writtenTo s 1
  let err ← writtenTo s 2
  pure ⟨code, out, err⟩

def executor (files : FileTree) (environment : Option Environment) : Executor := fun c =>
  match c.words with
  | [] => .error .nothing
  | word :: _ =>
    let environment := environment.getD standardEnvironment
    match commandFault? c.words c.directory environment with
    | some fault => .error (.unusable fault)
    | none =>
      match enter files c.directory with
      | .error cause => .error (launchFault cause c.directory)
      | .ok files =>
        let search := (valueAt? "PATH" environment).getD Program.standardSearch
        match Program.findIn files false (Program.candidates (spread search) (spread word)) with
        | .error cause => .error (launchFault cause word)
        | .ok program => runProgram files environment c.words program

end WorkspaceImport.Shell
