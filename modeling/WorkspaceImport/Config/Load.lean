import WorkspaceImport.Config
import WorkspaceImport.Yaml.File
/-!
Configurations from files. Settings that are not known are kept aside, and only a configuration that
passes its check is taken.
-/
namespace WorkspaceImport.Config

def isKnown : Value → Bool
  | .text name => knownNames.contains name
  | _ => false

def putEntry (c : Config) (e : Value × Value) : Config :=
  match e.1 with
  | .text name => c.put name e.2
  | _ => c

def ofEntries (entries : List (Value × Value)) : Config :=
  let c := (entries.filter fun e => isKnown e.1).foldl putEntry standard
  { c with extra := .map (entries.filter fun e => !isKnown e.1) }

/-- The configuration in a file, with whatever reads YAML. A file without entries stands for the
standard configuration. -/
def loadBy (loader : Yaml.Loader) (files : FileTree) (path : String) : Reported Config :=
  let found := Yaml.loadBy loader files (Path.ofString path)
  let checked : Except Failure Config := do
    let entries ← found.outcome
    if entries.isEmpty then pure standard
    else
      let c := ofEntries entries
      c.validate
      pure c
  ⟨found.notes, checked⟩

def load : FileTree → String → Reported Config :=
  loadBy Yaml.safeLoad

def adopt (files : FileTree) (path : String) : Reported Config :=
  let said := load files path
  match said.outcome with
  | .ok c => ⟨said.notes ++ [.configLoaded path], .ok c⟩
  | .error f => ⟨said.notes, .error f⟩

/-- The configuration in effect: the one that was adopted last, or the standard one. -/
def inEffect (adopted : Option Config) : Config :=
  adopted.getD standard

end WorkspaceImport.Config
