import WorkspaceImport.Data.Value
import WorkspaceImport.PackageInfo
/-!
Records of the legacy artifact format: one JSON object for each target. The fields are not typed, so
texts, lists and objects are all taken as lists of texts, and only values that have no members are
refused.
-/
namespace WorkspaceImport

inductive JsonRecordFault where
  | notObject (typeName : String)
  | missingLabel
  | notIterable (typeName : String)
  deriving DecidableEq

namespace PackageInfo

/-- The texts of a list field: an absent value has none, a text is one, a list shows its members and
an object its keys. -/
def jsonTexts (value : Option Value) : Except JsonRecordFault (List String) :=
  match value with
  | none => .ok []
  | some v =>
    if v.isFalsy then .ok []
    else
      match v with
      | .text s => .ok [s]
      | .list items => .ok (items.map Value.display)
      | .map entries => .ok (entries.map (·.1.display))
      | other => .error (.notIterable other.typeName)

def jsonBuildFile (fields : List (Value × Value)) : String :=
  let value :=
    match Value.field? "build_file_artifact_location" fields with
    | some (.map inner) => Value.field? "relative_path" inner
    | other => other
  match value with
  | some v => if v.isFalsy then "" else v.display
  | none => ""

def ofJson (data : Value) : Except JsonRecordFault PackageInfo :=
  match data with
  | .map fields =>
    match Value.field? "label" fields with
    | none => .error .missingLabel
    | some label =>
      if label.isFalsy then .error .missingLabel
      else do
        let sources ← jsonTexts (Value.field? "sources" fields)
        let dependencies ← jsonTexts (Value.field? "dependencies" fields)
        let generatedSources ← jsonTexts (Value.field? "generated_sources" fields)
        pure {
          label := label.display
          sources := sources
          dependencies := dependencies
          generatedSources := generatedSources
          kind := (Value.field? "kind" fields).elim "" Value.display
          buildFile := jsonBuildFile fields }
  | other => .error (.notObject other.typeName)

end PackageInfo

/-- The text of a fault; a value without members is no fault of the record but of the program that
wrote it, and has no text. -/
def JsonRecordFault.message : JsonRecordFault → String
  | .notObject typeName => "aspect JSON 顶层应为对象，实际为 " ++ typeName
  | .missingLabel => "aspect JSON 缺少 label 字段"
  | .notIterable typeName => typeName

end WorkspaceImport
