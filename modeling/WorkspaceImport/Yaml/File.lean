import WorkspaceImport.Failure
import WorkspaceImport.Yaml.Printer
import WorkspaceImport.Yaml.Reader
/-!
YAML files that hold a mapping. A file that is missing, or that holds something else, counts as an
empty mapping; a file that is too large is not even opened. Whatever reads the document is a parameter,
and `safeLoad` is the loader to run with.
-/
namespace WorkspaceImport.Yaml

def sizeLimit : Nat := 1024 * 1024

def mappingIn (path : Path) : Value → Reported (List (Value × Value))
  | .null => ⟨[], .ok []⟩
  | .map entries => ⟨[], .ok entries⟩
  | v => ⟨[.notMapping path v.typeName], .ok []⟩

abbrev Loader := ByteArray → Except Fault Value

def safeLoad : Loader := fun bytes =>
  (Source.ofBytes bytes).bind read

section Loading

variable (loader : Loader)

def mappingOfBytes (path : Path) (bytes : ByteArray) : Reported (List (Value × Value)) :=
  match loader bytes with
  | .ok v => mappingIn path v
  | .error .malformed => ⟨[.yamlRefused], .error (.yaml .malformed)⟩
  | .error fault => ⟨[], .error (.yaml fault)⟩

def loadBy (files : FileTree) (path : Path) : Reported (List (Value × Value)) :=
  match files.probe path with
  | .error e => ⟨[], .error (.read (.os e))⟩
  | .ok none => ⟨[], .ok []⟩
  | .ok (some entry) =>
    if sizeLimit < entry.size then ⟨[], .error (.yamlTooLarge path entry.size sizeLimit)⟩
    else
      match files.readBytes path with
      | .error e => ⟨[], .error (.read (.os e))⟩
      | .ok bytes => mappingOfBytes loader path bytes

end Loading

def load : FileTree → Path → Reported (List (Value × Value)) :=
  loadBy safeLoad

def save (path : Path) (v : Value) : FileTree.Action Unit :=
  FileTree.writeAtomic path (write v)

end WorkspaceImport.Yaml
