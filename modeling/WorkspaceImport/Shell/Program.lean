import WorkspaceImport.Shell.Builtin
import WorkspaceImport.Shell.Program.Column
import WorkspaceImport.Shell.Program.Sorting
import WorkspaceImport.Shell.Program.Tree
/-!
The programs of the system by their names. A program that runs another one is given the way to do that.
-/
namespace WorkspaceImport.Shell

inductive Ended where
  | exited (status : Nat)
  | killed (signal : Nat)

abbrev Launch := List (String × String) → List String → Run Ended

namespace Program

def action? (name : String) : Option Action :=
  match name with
  | "true" => some fun _ => pure 0
  | "false" => some fun _ => pure 1
  | "echo" => some echo
  | "printf" => some printf
  | "pwd" => some directory
  | "yes" => some repeated
  | "cat" => some concatenate
  | "head" => some head
  | "tail" => some tail
  | "wc" => some count
  | "tac" => some reverseLines
  | "rev" => some reverseCharacters
  | "nl" => some numberLines
  | "tee" => some tee
  | "tr" => some translate
  | "cut" => some cut
  | "paste" => some paste
  | "fold" => some fold
  | "comm" => some commonLines
  | "sort" => some sort
  | "uniq" => some unique
  | "ls" => some list
  | "mkdir" => some makeDirectories
  | "rmdir" => some removeDirectories
  | "rm" => some remove
  | "touch" => some touch
  | "cp" => some (transferAll false)
  | "mv" => some (transferAll true)
  | "realpath" => some realPath
  | _ => none

def environment : Run (List (String × String)) := do
  return (← get).vars.filterMap fun e => e.2.value.map fun text => (e.1, text)

def env (launch : Launch) : Action := fun words => do
  let u ← use [⟨'i', "ignore-environment", false⟩, taking 'u' "unset", ⟨'0', "null", false⟩] true 125
    words
  let clears := u.has 'i' || u.words.head? = some "-"
  let words := if u.words.head? = some "-" then u.words.tail else u.words
  let old ← if clears then pure [] else environment
  let removed := (u.options.filter (·.1 = 'u')).map (·.2)
  let kept := old.filter fun e => !removed.contains e.1
  let settings := words.takeWhile fun w => w.toList.contains '='
  let new := settings.foldl (fun entries w =>
    let (name, value) := Run.nameAndValue w
    putEntry name (value.getD "") entries) kept
  match words.drop settings.length with
  | [] =>
    let stop := if u.has '0' then "\x00" else "\n"
    output (String.join (new.map fun e => e.1 ++ "=" ++ e.2 ++ stop))
    pure 0
  | command =>
    match ← launch new command with
    | .exited status => pure status
    | .killed signal => throw (.killed signal)

def printEnvironment : Action := fun words => do
  let u ← use [⟨'0', "null", false⟩] false 2 words
  let entries ← environment
  let stop := if u.has '0' then "\x00" else "\n"
  if u.words.isEmpty then
    output (String.join (entries.map fun e => e.1 ++ "=" ++ e.2 ++ stop))
    pure 0
  else
    let found := u.words.map fun name => valueAt? name entries
    output (String.join (found.map fun v => match v with | some text => text ++ stop | none => ""))
    pure (statusOf (found.all Option.isSome))

def runner? (launch : Launch) (name : String) : Option Action :=
  match name with
  | "env" => some (env launch)
  | "printenv" => some printEnvironment
  | _ => none

def shellNames : List String :=
  ["sh", "dash"]

def isProgram (name : String) : Bool :=
  (action? name).isSome || shellNames.contains name ||
    (runner? (fun _ _ => pure (.exited 0)) name).isSome

def directories : List Path :=
  [⟨.slash, ["bin"]⟩, ⟨.slash, ["usr", "bin"]⟩]

def systemDirectories : List Path :=
  ⟨.slash, []⟩ :: ⟨.slash, ["usr"]⟩ :: ⟨.slash, ["tmp"]⟩ :: directories

def nameAt (files : FileTree) (path : Path) : Except OsCause String :=
  if directories.contains path.parent && isProgram path.name then .ok path.name
  else if systemDirectories.contains path then .error .denied
  else
    match files.lookup path with
    | .ok _ => .error .denied
    | .error cause => .error cause

def candidates (search : String) (name : String) : List Path :=
  if name.toList.contains '/' then [pathOf name]
  else (search.toList.splitOn ':').map fun d => (pathOf (String.ofList d)).join (pathOf name)

/-- The first program among the candidates. A candidate that exists and cannot be run is remembered;
otherwise the last one says why there is none. -/
def findIn (files : FileTree) (denied : Bool) : List Path → Except OsCause String
  | [] => .error (if denied then .denied else .notFound)
  | path :: rest =>
    match nameAt files path with
    | .ok name => .ok name
    | .error cause =>
      let denied := denied || cause = .denied
      if rest.isEmpty then .error (if denied then .denied else cause) else findIn files denied rest

def standardSearch : String := "/bin:/usr/bin"

end Program

end WorkspaceImport.Shell
