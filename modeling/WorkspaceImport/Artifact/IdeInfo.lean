import WorkspaceImport.PackageInfo
import WorkspaceImport.TextFormat.Message
/-!
Records of the modern artifact format: one text message for each target. A field that is read as a
text has to be a text, and a field that is read as a list of messages has to hold messages only; all
other fields are ignored.
-/
namespace WorkspaceImport

open TextFormat (Item Message)

inductive IdeInfoFault where
  | missingLabel
  | notScalar (path : List String)
  | notMessage (field : String)
  deriving DecidableEq

namespace IdeInfo

def first? (name : String) : Message → Option Item
  | [] => none
  | (n, item) :: rest => if n = name then some item else first? name rest

def follow? : Item → List String → Option Item
  | item, [] => some item
  | .scalar _, _ :: _ => none
  | .message fields, name :: path => (first? name fields).bind (follow? · path)

def scalarAt (m : Message) (path : List String) : Except IdeInfoFault String :=
  match follow? (.message m) path with
  | none => .ok ""
  | some (.scalar s) => .ok s
  | some (.message _) => .error (.notScalar path)

def valuesOf (name : String) (m : Message) : List Item :=
  m.filterMap fun field => if field.1 = name then some field.2 else none

def messagesOf (name : String) (m : Message) : Except IdeInfoFault (List Message) :=
  (valuesOf name m).mapM fun item =>
    match item with
    | .message fields => .ok fields
    | .scalar _ => .error (.notMessage name)

/-- The texts of a list without the empty ones and without repetitions of earlier ones. -/
def distinctNonempty (done : List String) : List String → List String
  | [] => []
  | s :: rest =>
    if s.isEmpty || done.contains s then distinctNonempty done rest
    else s :: distinctNonempty (s :: done) rest

def joinPath (root relative : List Char) : List Char :=
  if relative.head? = some '/' then relative
  else if root.isEmpty || root.getLast? == some '/' then root ++ relative
  else root ++ '/' :: relative

/-- The directory of a path. Slashes at its end are dropped unless there is nothing else. -/
def directoryOf (path : List Char) : List Char :=
  let head := (path.reverse.dropWhile (· ≠ '/')).reverse
  if head.all (· = '/') then head else (head.reverse.dropWhile (· = '/')).reverse

/-- What one artifact contributes: a source, or the directory of a generated source. -/
inductive Artifact where
  | source (path : String)
  | generated (directory : String)
  deriving DecidableEq

def artifact? (m : Message) : Except IdeInfoFault (Option Artifact) := do
  let relative ← scalarAt m ["relative_path"]
  if relative.isEmpty then pure none
  else
    let isSource ← scalarAt m ["is_source"]
    if isSource = "false" then
      let root ← scalarAt m ["root_execution_path_fragment"]
      let path := joinPath root.toList relative.toList
      pure (some (.generated (String.ofList (directoryOf path))))
    else pure (some (.source relative))

def artifacts (m : Message) : Except IdeInfoFault (List Artifact) := do
  let infos ← messagesOf "java_ide_info" m
  match infos.head? with
  | none => pure []
  | some info => do
    let sources ← messagesOf "sources" info
    (sources.mapM artifact?).map fun found => found.filterMap id

end IdeInfo

namespace PackageInfo

open IdeInfo

def ofIdeInfo (m : Message) : Except IdeInfoFault PackageInfo := do
  let label ← scalarAt m ["key", "label"]
  if label.isEmpty then .error .missingLabel
  else
    let targets ← messagesOf "dependencies" m
    let dependencies ← targets.mapM fun d => scalarAt d ["target", "label"]
    let found ← artifacts m
    let kind ← scalarAt m ["kind_string"]
    let buildFile ← scalarAt m ["build_file_artifact_location", "relative_path"]
    pure {
      label := label
      sources := found.filterMap fun a => match a with | .source p => some p | .generated _ => none
      dependencies := distinctNonempty [] dependencies
      generatedSources := distinctNonempty []
        (found.filterMap fun a => match a with | .source _ => none | .generated d => some d)
      kind := kind
      buildFile := buildFile }

end PackageInfo

def IdeInfoFault.message : IdeInfoFault → String
  | .missingLabel => "intellij-info 缺少 key.label"
  | .notScalar path => "字段 " ++ String.intercalate "." path ++ " 应为标量"
  | .notMessage field => "字段 " ++ field ++ " 应为消息"

end WorkspaceImport
