import WorkspaceImport.Aspect.Variant
/-!
The configuration of a session. Its fields come from outside without any promise about their kinds,
so they are kept as the values that were written; what needs a text checks it where it uses it.
-/
namespace WorkspaceImport

structure Config where
  bazelExecutable : Value
  commandTimeout : Value
  aspectVersion : Value
  aspectDir : Value
  aspectLabel : Value
  srcPath : Value
  testPath : Value
  logLevel : Value
  extra : Value
  deriving Inhabited

namespace Config

def standard : Config where
  bazelExecutable := .text "bazel"
  commandTimeout := .null
  aspectVersion := .text "intellij"
  aspectDir := .text "aspect"
  aspectLabel := .text "//:bzleclipse_aspect.bzl%bzleclipse_aspect"
  srcPath := .text "src/main/java"
  testPath := .text "src/test/java"
  logLevel := .text "INFO"
  extra := .map []

def knownNames : List String :=
  ["bazel_executable", "command_timeout", "aspect_version", "aspect_dir", "aspect_label",
    "src_path", "test_path", "log_level"]

def put (c : Config) (name : String) (v : Value) : Config :=
  match name with
  | "bazel_executable" => { c with bazelExecutable := v }
  | "command_timeout" => { c with commandTimeout := v }
  | "aspect_version" => { c with aspectVersion := v }
  | "aspect_dir" => { c with aspectDir := v }
  | "aspect_label" => { c with aspectLabel := v }
  | "src_path" => { c with srcPath := v }
  | "test_path" => { c with testPath := v }
  | "log_level" => { c with logLevel := v }
  | "extra" => { c with extra := v }
  | _ => c

/-- The configuration with the given settings. Names that are no settings are refused. -/
def ofFields (fields : List (String × Value)) : Except Failure Config :=
  if fields.all fun f => f.1 = "extra" || knownNames.contains f.1 then
    .ok (fields.foldl (fun c f => c.put f.1 f.2) standard)
  else .error (.kind .unknownField)

def toFields (c : Config) : List (String × Value) :=
  [("bazel_executable", c.bazelExecutable), ("command_timeout", c.commandTimeout),
    ("aspect_version", c.aspectVersion), ("aspect_dir", c.aspectDir),
    ("aspect_label", c.aspectLabel), ("src_path", c.srcPath), ("test_path", c.testPath),
    ("log_level", c.logLevel), ("extra", c.extra)]

/-- The settings written out in full, which a setting that stands inside itself has no end for. -/
def written (c : Config) : Except Failure (List (String × Value)) :=
  if c.toFields.all fun f => f.2.isFinite then .ok c.toFields else .error .nestedTooDeep

def aspectVersions : List String :=
  ["intellij", "bef"]

def isAspectVersion (v : Value) : Bool :=
  v.text?.any fun name => aspectVersions.contains (Variant.plainName name)

def validate (c : Config) : Except Failure Unit :=
  match c.aspectVersion.stripped?, c.bazelExecutable.stripped? with
  | none, _ => .error (.kind .notText)
  | some version, executable =>
    if !isAspectVersion version then .error (.config (.unknownVersion c.aspectVersion))
    else
      match executable with
      | none => .error (.kind .notText)
      | some name => if name.isFalsy then .error (.config .emptyExecutable) else .ok ()

end Config

end WorkspaceImport
