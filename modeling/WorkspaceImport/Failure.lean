import WorkspaceImport.Journal
import WorkspaceImport.Yaml.Cursor
/-!
The ways in which the operations of a session fail. A failure is the cause itself; its code, its
message and what else it carries are functions of the cause.
-/
namespace WorkspaceImport

/-- A detail that the tool's own launch gave, in its words or as an error of the system. -/
inductive LaunchDetail where
  | said (text : String)
  | os (error : OsError)

inductive ConfigFault where
  | unknownVariant (name : Value)
  | unknownVersion (version : Value)
  | emptyExecutable
  | noExecutable
  | notWorkspace (root : Path)

inductive InputFault where
  | label (fault : LabelFault)
  | noSources (package : String)
  | sourcesOutside (packagePath : String) (paths : List String)
  | unknownPackage (name : String)

/-- What kept the tool, or the reading of what it wrote, from succeeding. -/
inductive InvocationFault where
  | missing (executable : String) (detail : LaunchDetail)
  | refused (detail : LaunchDetail)
  | timedOut (limit : Value) (words : List String)
  | artifact (path : Path) (fault : ArtifactFault)

inductive KindFault where
  | notText
  | notPath
  | notWord
  | notIterable
  | unknownField
  deriving DecidableEq

inductive CommandFault where
  | illegalName
  | nullByte
  deriving DecidableEq

inductive Failure where
  | config (fault : ConfigFault)
  | input (fault : InputFault)
  | invocation (fault : InvocationFault) (found : Records)
  | expansionCycle (target : String)
  | dependencyCycle (cycle : List String)
  | rootRefused
  | resolveCanceled (target : String)
  | importCanceled (package : String)
  | kind (fault : KindFault)
  | read (fault : ReadFault)
  | write (error : OsError)
  | yaml (fault : Yaml.Fault)
  | yamlTooLarge (path : Path) (size limit : Nat)
  | toolBroken
  | unusable (fault : CommandFault)
  | nestedTooDeep

def LaunchDetail.message (wording : Wording) : LaunchDetail → String
  | .said text => text
  | .os e => wording (.os e)

def ConfigFault.message : ConfigFault → String
  | .unknownVariant name => "未知的 aspect 变体: " ++ name.shown ++ "，可选: ['bef', 'intellij']"
  | .unknownVersion version =>
    "未知的 aspect_version: " ++ version.shown ++ "，可选: ['intellij', 'bef']"
  | .emptyExecutable => "bazel_executable 不能为空"
  | .noExecutable => "未配置 bazel 可执行文件"
  | .notWorkspace root =>
    root.text ++ " 不是 Bazel 工作区（缺少 WORKSPACE/WORKSPACE.bazel/MODULE.bazel）"

def InputFault.message : InputFault → String
  | .label fault => fault.message
  | .noSources package => "找不到包的源码目录: " ++ package
  | .sourcesOutside packagePath _ => "源码目录应位于包目录 " ++ packagePath ++ " 之下"
  | .unknownPackage name => "工作区中没有包: " ++ name

def InputFault.details : InputFault → List String
  | .sourcesOutside _ paths => paths
  | _ => []

def InvocationFault.message (wording : Wording) : InvocationFault → String
  | .missing executable detail =>
    "bazel 可执行文件不存在: " ++ executable ++ ": " ++ detail.message wording
  | .refused detail => "bazel 启动失败: " ++ detail.message wording
  | .timedOut limit words =>
    "bazel 执行超时（" ++ limit.display ++ "秒）: " ++ String.intercalate " " words
  | .artifact path fault =>
    "读取 aspect 产物失败: " ++ path.text ++ ": " ++ fault.message wording

def CommandFault.message : CommandFault → String
  | .illegalName => "illegal environment variable name"
  | .nullByte => "embedded null byte"

namespace Failure

def code? : Failure → Option String
  | .config _ => some "CONFIG_ERROR"
  | .input _ => some "VALIDATION_ERROR"
  | .invocation .. => some "INVOCATION_ERROR"
  | .expansionCycle _ => some "STRUCTURAL_ERROR"
  | .dependencyCycle _ => some "CYCLIC_DEPENDENCY"
  | .rootRefused => some "IMPORT_FAILED"
  | .resolveCanceled _ | .importCanceled _ => some "CANCELED"
  | _ => none

/-- The message of a failure; failures that are not this program's own have none. -/
def message (wording : Wording) : Failure → String
  | .config fault => fault.message
  | .input fault => fault.message
  | .invocation fault _ => fault.message wording
  | .expansionCycle target => "通配目标展开出现环: " ++ target
  | .dependencyCycle cycle => "检测到循环依赖: " ++ String.intercalate " -> " cycle
  | .rootRefused => "无法创建工作区根工程，详见前面的日志"
  | .resolveCanceled target => "aspect 解析已取消 (剩余目标自 " ++ target ++ " 起)"
  | .importCanceled package => "导入已取消，停在 " ++ package
  | .yamlTooLarge path size limit =>
    "YAML 文件过大: " ++ path.text ++ " (" ++ toString size ++ " 字节)，上限 " ++
      toString limit ++ " 字节"
  | .read fault => wording fault.foreign
  | .write error => wording (.os error)
  | .yaml (.badValue text) => text
  | .unusable fault => fault.message
  | .kind _ | .yaml _ | .toolBroken | .nestedTooDeep => ""

def precedesLaunch : Failure → Bool
  | .kind .notWord => true
  | _ => false

end Failure

structure Reported (α : Type) where
  notes : List Note
  outcome : Except Failure α

def Reported.lacksCommand {α : Type} (r : Reported α) : Bool :=
  match r.outcome with
  | .error f => f.precedesLaunch
  | .ok _ => false

end WorkspaceImport
