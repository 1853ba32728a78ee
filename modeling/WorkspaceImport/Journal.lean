import WorkspaceImport.Artifact.Load
import WorkspaceImport.Log.Record
/-!
What happens in a session, in the order in which it happens. Everything that is logged is an event
here, and so is every step that somebody who watches the cache may ask for later; the log is a
projection of the journal.
-/
namespace WorkspaceImport

structure Origin where
  project : String
  caller : String
  deriving DecidableEq, Inhabited

def Origin.tag (o : Origin) : String :=
  " [prj=" ++ o.project ++ ", src=" ++ o.caller ++ "]"

inductive Note where
  | variantChosen (name : String)
  | running (words : List String) (directory : String)
  | finished (command : String) (lineCount : Nat)
  | exited (command : String) (code : Int) (lineCount : Nat)
  | artifactSkipped (path : Path) (fault : ArtifactFault)
  | stalePackage (target : String) (count : Nat) (origin : Origin)
  | degraded (targets : List String) (origin : Origin)
  | omitted (targets : List String) (origin : Origin)
  | scanned (root : Path) (count : Nat)
  | ordered (names : List String)
  | importStarted (project : String) (count : Nat)
  | importFinished (project : String) (count : Nat)
  | packageSkipped (package : String)
  | projectExists (name : String)
  | projectsMissing (name : String) (missing : List String)
  | projectCreated (name : String) (references : List String)
  | configLoaded (path : String)
  | yamlRefused
  | notMapping (path : Path) (typeName : String)
  | announced (task : String)
  | advanced (units total : Int)

/-- An event of a session. `hit` to `failed` are what the cache does with one target, `produced` among
them for every record that a run of the tool brought. -/
inductive Event where
  | hit (target : String) (origin : Origin)
  | missed (target : String) (origin : Origin)
  | invoked (target : String)
  | produced (target : String) (info : PackageInfo) (origin : Origin)
  | stale (target : String) (origin : Origin)
  | failed (target : String) (origin : Origin)
  | flushed
  | dropped (target : String)
  | told (note : Note)

namespace Note

def level : Note → Level
  | .exited .. | .artifactSkipped .. | .stalePackage .. | .degraded .. | .omitted .. => .warning
  | .packageSkipped _ | .projectsMissing .. | .notMapping .. => .warning
  | .projectExists _ | .yamlRefused => .error
  | .advanced .. => .debug
  | _ => .info

def logger : Note → String
  | .variantChosen _ => "services.container"
  | .running .. | .finished .. | .exited .. => "core.aspect.invoker"
  | .artifactSkipped .. => "core.aspect.parser"
  | .stalePackage .. | .degraded .. | .omitted .. => "core.aspect.cache"
  | .scanned .. => "core.package_tree"
  | .ordered _ => "core.import_order"
  | .importStarted .. | .importFinished .. | .packageSkipped _ => "services.import_service"
  | .projectExists _ | .projectsMissing .. | .projectCreated .. => "services.project_factory"
  | .configLoaded _ => "core.config"
  | .yamlRefused | .notMapping .. => "utils.yaml_io"
  | .announced _ | .advanced .. => "core.progress"

def cacheMessage (event target detail : String) (origin : Origin) : String :=
  "ASPECT CACHE " ++ event ++ " target: " ++ target ++ detail ++ origin.tag

def message (wording : Wording) : Note → String
  | .variantChosen name => "aspect 变体: " ++ name
  | .running words directory =>
    "执行: " ++ String.intercalate " " words ++ " (cwd=" ++ directory ++ ")"
  | .finished command count =>
    "bazel " ++ command ++ " 完成 (0.0s)，" ++ toString count ++ " 行输出"
  | .exited command code count =>
    "bazel " ++ command ++ " 退出码 " ++ toString code ++ " (0.0s)，保留 " ++ toString count ++
      " 行输出"
  | .artifactSkipped path fault =>
    "intellij-info 转换失败，已跳过: " ++ path.text ++ ": " ++ fault.message wording
  | .stalePackage target count origin =>
    cacheMessage "STALE" target (" -> " ++ toString count ++ " 条旧记录") origin
  | .degraded targets origin =>
    "以下目标使用了上次成功的旧记录: " ++ Text.quotedList targets ++ origin.tag
  | .omitted targets origin =>
    "以下目标没有可用记录，已省略: " ++ Text.quotedList targets ++ origin.tag
  | .scanned root count => "扫描完成: " ++ root.text ++ " 共 " ++ toString count ++ " 个包"
  | .ordered names => "导入顺序: " ++ Text.quotedList names
  | .importStarted project count =>
    "开始导入 [" ++ project ++ "]，共 " ++ toString count ++ " 个包，可能需要一些时间"
  | .importFinished project count =>
    "导入完成 [" ++ project ++ "]: " ++ toString count ++ " 个工程"
  | .packageSkipped package => "包 " ++ package ++ " 的工程创建失败，已跳过"
  | .projectExists name => "工程 [" ++ name ++ "] 已存在，不再重复初始化"
  | .projectsMissing name missing =>
    "工程 [" ++ name ++ "] 引用了尚未创建的工程: " ++ Text.quotedList missing
  | .projectCreated name references =>
    "工程已创建: " ++ name ++ " (refs=" ++ Text.quotedList references ++ ")"
  | .configLoaded path => "配置已加载: " ++ path
  | .yamlRefused => "解析 YAML 失败"
  | .notMapping path typeName =>
    path.text ++ " 顶层不是映射 (" ++ typeName ++ ")，按空配置处理"
  | .announced task => task
  | .advanced units total =>
    "进度 +" ++ toString units ++ " (累计 " ++ toString total ++ ")"

def subject? : Note → Option (String × Origin)
  | .stalePackage target _ origin => some (target, origin)
  | _ => none

end Note

def targetContext (target : String) (origin : Origin) : List (String × Value) :=
  [("target", .text target), ("project", .text origin.project), ("caller", .text origin.caller)]

def Note.record (wording : Wording) (n : Note) : LogRecord where
  level := n.level
  logger := n.logger
  message := n.message wording
  context := n.subject?.elim [] fun s => targetContext s.1 s.2

namespace Event

def cacheRecord (level : Level) (event target : String) (origin : Origin) : LogRecord where
  level := level
  logger := "core.aspect.cache"
  message := Note.cacheMessage event target "" origin
  context := targetContext target origin

def record? (wording : Wording) : Event → Option LogRecord
  | .hit target origin => some (cacheRecord .info "HIT" target origin)
  | .missed target origin => some (cacheRecord .info "MISS" target origin)
  | .produced target _ origin => some (cacheRecord .info "LOAD" target origin)
  | .stale target origin => some (cacheRecord .warning "STALE" target origin)
  | .failed target origin => some (cacheRecord .warning "FAIL" target origin)
  | .flushed => some ⟨.info, "core.aspect.cache", "aspect 缓存已清空", [], none⟩
  | .told note => some (note.record wording)
  | _ => none

end Event

end WorkspaceImport
