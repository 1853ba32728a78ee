import WorkspaceImport.Failure
import WorkspaceImport.Package.Node
/-!
Where the sources of a package are, and which targets stand for the package.
-/
namespace WorkspaceImport

/-- Source directories are written below the root of the workspace. -/
structure Layout where
  sourcePaths : List String
  targets : List String
  deriving DecidableEq

namespace Layout

def isSlash (c : Char) : Bool :=
  c = '/'

def trimSlashes (s : String) : String :=
  String.ofList (((s.toList.dropWhile isSlash).reverse.dropWhile isSlash).reverse)

/-- The source directories of a package by the conventions of the configuration, each of which is the
path of a directory inside a package. Empty conventions count for nothing. -/
def sourceDirectories (files : FileTree) (n : PackageNode) : List Value → Except Failure (List String)
  | [] => .ok []
  | convention :: rest =>
    match convention with
    | .text s =>
      let relative := trimSlashes s
      if relative.isEmpty then sourceDirectories files n rest
      else
        match files.isDirectory (n.directory.join (Path.ofString relative)) with
        | .error e => .error (.read (.os e))
        | .ok isThere => do
          let more ← sourceDirectories files n rest
          pure (if isThere then (n.relativePath ++ "/" ++ relative) :: more else more)
    | .bytes _ => .error (.kind .notPath)
    | _ => .error (.kind .notText)

/-- The layout of a package that has sources. A package stands for all of its targets. -/
def ofPackage (files : FileTree) (conventions : List Value) (n : PackageNode) :
    Except Failure Layout := do
  let sources ← sourceDirectories files n conventions
  if sources.isEmpty then .error (.input (.noSources n.name))
  else
    match Label.parse n.name with
    | .error fault => .error (.input (.label fault))
    | .ok label =>
      .ok ⟨sources, [(if label.isShort then label.toWildcard else label).text]⟩

end Layout

end WorkspaceImport
