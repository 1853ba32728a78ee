import WorkspaceImport.Failure
/-!
The two variants of the aspect that the build tool can run. They differ in the options of the run, in
the files that it writes, and in how these are read; the records are the same.
-/
namespace WorkspaceImport

inductive Variant where
  | legacy
  | modern
  deriving DecidableEq, Inhabited

structure AspectLocation where
  directory : String
  label : String
  deriving DecidableEq

namespace Variant

def name : Variant → String
  | .legacy => "bef"
  | .modern => "intellij"

def artifactSuffix : Variant → String
  | .legacy => ".bzleclipse-build.json"
  | .modern => ".intellij-info.txt"

def options (location : AspectLocation) : Variant → List String
  | .legacy =>
    ["--override_repository=local_eclipse_aspect=" ++ location.directory,
      "--aspects=@local_eclipse_aspect" ++ location.label,
      "-k",
      "--output_groups=json-files,classpath-jars,-_,-defaults",
      "--experimental_show_artifacts"]
  | .modern =>
    ["--nobuild_event_binary_file_path_conversion",
      "--noexperimental_run_validations",
      "--aspects=@intellij_aspect//:intellij_info_bundled.bzl%intellij_info_aspect",
      "--override_repository=intellij_aspect=" ++ location.directory,
      "--output_groups=intellij-info-generic,intellij-info-java-direct-deps,intellij-resolve-java-direct-deps",
      "--experimental_show_artifacts"]

def artifactMark : List Char :=
  ['>', '>', '>']

/-- The path in a line of the tool's output that names an artifact of this variant. -/
def artifactIn? (v : Variant) (line : String) : Option String :=
  let cs := Text.trim line.toList
  if artifactMark.isPrefixOf cs && v.artifactSuffix.toList.isSuffixOf cs then
    some (String.ofList (Text.trim (cs.drop artifactMark.length)))
  else none

/-- A letter of the Latin alphabet in lower case; other letters have no part in the names of the
variants and stay as they are. -/
def lowerAscii (c : Char) : Char :=
  if 'A' ≤ c ∧ c ≤ 'Z' then Char.ofNat (c.toNat + 32) else c

def plainName (s : String) : String :=
  String.ofList ((Text.trim s.toList).map lowerAscii)

def ofName (name : Value) : Except Failure Variant :=
  if name.isFalsy then .ok .modern
  else
    match name.text? with
    | none => .error (.kind .notText)
    | some s =>
      let plain := plainName s
      if plain = "" ∨ plain = modern.name then .ok .modern
      else if plain = legacy.name then .ok .legacy
      else .error (.config (.unknownVariant name))

/-- A legacy artifact that cannot be read is a failure of the run that wrote it, but a value without
members where a list belongs is not caught, nor is nesting that goes too deep. -/
def artifactFailure (path : Path) : ArtifactFault → Failure
  | .jsonRecord (.notIterable _) => .kind .notIterable
  | .nestedTooDeep => .nestedTooDeep
  | fault => .invocation (.artifact path fault) .empty

/-- The records of modern artifacts in the order of the files. Each stands for itself: one that cannot
be read is left out, but nesting that goes too deep ends the reading. -/
def loadModern (files : FileTree) : List Path → Reported (List PackageInfo)
  | [] => ⟨[], .ok []⟩
  | path :: rest =>
    match Artifact.readIdeInfo files path with
    | .error .nestedTooDeep => ⟨[], .error .nestedTooDeep⟩
    | .error fault =>
      let others := loadModern files rest
      ⟨.artifactSkipped path fault :: others.notes, others.outcome⟩
    | .ok info =>
      let others := loadModern files rest
      ⟨others.notes, others.outcome.map (info :: ·)⟩

def load (v : Variant) (files : FileTree) (paths : List Path) : Reported Records :=
  match v with
  | .legacy =>
    ⟨[], match Artifact.readAllJson files paths with
      | .ok infos => .ok (Records.ofInfos infos)
      | .error (path, fault) => .error (artifactFailure path fault)⟩
  | .modern =>
    let read := loadModern files paths
    ⟨read.notes, read.outcome.map Records.ofInfos⟩

end Variant

end WorkspaceImport
