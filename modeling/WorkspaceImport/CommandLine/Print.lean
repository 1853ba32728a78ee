import WorkspaceImport.Cache.Resolve
import WorkspaceImport.Package.Node
import WorkspaceImport.Project
/-!
What the commands print. Sequences that would control a terminal are not printed.
-/
namespace WorkspaceImport.CommandLine

def isControlParameter (c : Char) : Bool :=
  c = ';' || c = '?' || ('0' ≤ c && c ≤ '9')

def isAsciiLetter (c : Char) : Bool :=
  ('a' ≤ c && c ≤ 'z') || ('A' ≤ c && c ≤ 'Z')

def afterControl? (cs : List Char) : Option (List Char) :=
  match cs.dropWhile isControlParameter with
  | c :: rest => if isAsciiLetter c then some rest else none
  | [] => none

theorem length_afterControl {cs rest : List Char} (found : afterControl? cs = some rest) :
    rest.length < cs.length := by
  unfold afterControl? at found
  have shorter := (List.dropWhile_suffix isControlParameter (l := cs)).length_le
  split at found
  · next c more same =>
    rw [same] at shorter
    split at found
    · cases found
      simp only [List.length_cons] at shorter
      omega
    · cases found
  · cases found

def withoutControls (cs : List Char) : List Char :=
  match cs with
  | [] => []
  | '\x1b' :: '[' :: rest =>
    match _found : afterControl? rest with
    | some after => withoutControls after
    | none => '\x1b' :: withoutControls ('[' :: rest)
  | c :: rest => c :: withoutControls rest
termination_by cs.length
decreasing_by
  · have := length_afterControl _found
    simp only [List.length_cons]
    omega
  · simp
  · simp

def printable (s : String) : String :=
  String.ofList (withoutControls s.toList)

def packageLabel (n : PackageNode) : String :=
  if n.isWorkspaceRoot then n.name ++ " (" ++ n.workspaceRoot.text ++ ")" else n.name

mutual

def treeLines (depth : Nat) : PackageNode → List String
  | ⟨name, root, path, children⟩ =>
    ("".pushn ' ' (2 * depth) ++ packageLabel ⟨name, root, path, children⟩) ::
      treesLines (depth + 1) children

def treesLines (depth : Nat) : List PackageNode → List String
  | [] => []
  | n :: rest => treeLines depth n ++ treesLines depth rest

end

def recordLines (isOld : Bool) (label : String) (info : PackageInfo) : List String :=
  (label ++ (if isOld then " (旧记录)" else "") ++ "  kind=" ++
      (if info.kind.isEmpty then "-" else info.kind)) ::
    (info.sources.map ("    src  " ++ ·) ++ info.generatedSources.map ("    gen  " ++ ·) ++
      info.dependencies.map ("    dep  " ++ ·))

def reportLines (r : Report) : List String :=
  (r.infos.entries.flatMap fun e => recordLines (r.degraded.contains e.1) e.1 e.2) ++
    if r.missing.isEmpty then [] else ["没有可用记录: " ++ String.intercalate ", " r.missing]

def projectLine (p : Project) : String :=
  "  " ++ p.name ++
    if p.references.isEmpty then "" else "  -> " ++ String.intercalate ", " p.references

def projectLines (ps : List Project) : List String :=
  ps.map projectLine ++ ["共导入 " ++ toString ps.length ++ " 个工程"]

end WorkspaceImport.CommandLine
