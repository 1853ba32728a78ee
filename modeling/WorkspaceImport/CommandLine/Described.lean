import WorkspaceImport.CommandLine.Run
import WorkspaceImport.Json.Reader
/-!
Workspaces that a JSON document describes: `directory` is the current directory, `files` holds the
texts of the files by their paths, and `tool` the output of the build tool by the target it is run for.
-/
namespace WorkspaceImport.CommandLine

def Described.text (v : Value) (name : String) (standard : String) : String :=
  match v with
  | .map fields => ((Value.field? name fields).bind Value.text?).getD standard
  | _ => standard

def Described.entries (v : Value) (name : String) : List (String × Value) :=
  match v with
  | .map fields =>
    match Value.field? name fields with
    | some (.map inner) => inner.filterMap fun e => e.1.text?.map fun k => (k, e.2)
    | _ => []
  | _ => []

def Described.output (v : Value) : Output :=
  let code : Int :=
    match v with
    | .map fields => match Value.field? "exit" fields with | some (.int n) => n | _ => 0
    | _ => 0
  ⟨code, Described.text v "stdout" "", Described.text v "stderr" ""⟩

def Described.surroundings (v : Value) : Surroundings :=
  let here := (Path.ofString (Described.text v "directory" "/")).segments
  let place (path : String) : List String := (Path.resolve ⟨.slash, here⟩ (Path.ofString path)).segments
  let root := (Described.entries v "files").foldl
    (fun (tree : Entry) e => tree.put (.file ((e.2.text?.getD "").toUTF8)) (place e.1))
    (Entry.emptyDirectory.put .emptyDirectory here)
  { files := ⟨root, here⟩
    executor := Executor.ofTable
      ((Described.entries v "tool").map fun e => (e.1, .ok (Described.output e.2)))
    accepts := fun _ => true }

def runDescribed (description : String) (words : List String) : Option Result :=
  match Json.read description with
  | .ok v => some (run (Described.surroundings v) words)
  | .error _ => none

end WorkspaceImport.CommandLine
