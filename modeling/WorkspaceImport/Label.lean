import WorkspaceImport.Text.Blank
import WorkspaceImport.Text.Quoted
/-!
Target labels such as `//a/b:c`, `//a/b`, `//a/b:*` and `@repo//x:y`. A label is kept as its parts;
its text is put together again from them. Labels without a target name stand for the target named
like the last segment of the package, and the canonical form writes that name.
-/
namespace WorkspaceImport

/-- The repository is empty or begins with `@` and holds no `//`; the package path holds no colon;
`target` is what follows the first colon, if there is one. -/
structure Label where
  repository : String
  packagePath : String
  target : Option String
  deriving DecidableEq

inductive LabelFault where
  | empty
  | malformed (text : String)
  deriving DecidableEq

namespace Label

def splitSlashes : List Char → Option (List Char × List Char)
  | [] => none
  | '/' :: '/' :: rest => some ([], rest)
  | c :: rest => (splitSlashes rest).map fun parts => (c :: parts.1, parts.2)

def splitColon (cs : List Char) : List Char × Option (List Char) :=
  (cs.takeWhile (· ≠ ':'), (cs.dropWhile (· ≠ ':')).tail? )

def dropMainRepository : List Char → List Char
  | '@' :: '/' :: '/' :: rest => '/' :: '/' :: rest
  | cs => cs

def ofChars? (cs : List Char) : Option Label :=
  match splitSlashes (dropMainRepository cs) with
  | none => none
  | some (repository, body) =>
    if repository.isEmpty || repository.head? == some '@' then
      let (path, target) := splitColon body
      some ⟨String.ofList repository, String.ofList path, target.map String.ofList⟩
    else none

def parse (s : String) : Except LabelFault Label :=
  let cs := Text.trim s.toList
  if cs.isEmpty then .error .empty
  else
    match ofChars? cs with
    | some l => .ok l
    | none => .error (.malformed s)

def package (l : Label) : String :=
  l.repository ++ "//" ++ l.packagePath

def text (l : Label) : String :=
  match l.target with
  | none => l.package
  | some t => l.package ++ ":" ++ t

def lastSegment (l : Label) : String :=
  String.ofList (l.packagePath.toList.reverse.takeWhile (· ≠ '/')).reverse

def isShort (l : Label) : Bool :=
  l.target.isNone

def targetName (l : Label) : String :=
  l.target.getD l.lastSegment

/-- A package path that ends in the segment `...` stands for everything below it. -/
def isRecursive (l : Label) : Bool :=
  l.lastSegment == "..."

def wildcardNames : List String :=
  ["*", "all", "all-targets"]

/-- Whether the label expands to several targets. A short label never does by its name alone. -/
def isWildcard (l : Label) : Bool :=
  l.isRecursive || l.target.any (wildcardNames.contains ·)

def toWildcard (l : Label) : Label :=
  { l with target := some "*" }

/-- The one spelling of a target: short labels get their target name, recursive patterns and the
package of the root stay as they are. -/
def canonical (l : Label) : Label :=
  if l.isShort && l.packagePath != "" && !l.isRecursive then
    { l with target := some l.lastSegment }
  else l

end Label

/-- The canonical spelling of a target; a text that is no label loses the blanks around it. -/
def canonicalLabel (s : String) : String :=
  match Label.parse s with
  | .ok l => l.canonical.text
  | .error _ => Text.strip s

/-- The package that a target belongs to; a text that is no label is its own package. -/
def packageOf (s : String) : String :=
  match Label.parse s with
  | .ok l => l.package
  | .error _ => s

def LabelFault.message : LabelFault → String
  | .empty => "标签不能为空"
  | .malformed text => "非法标签: " ++ Text.quoted text

end WorkspaceImport
