import WorkspaceImport.Files.Path
/-!
Texts of bytes. Scripts, arguments and the contents of files are bytes for the programs that handle
them; such a text has one character below 256 for every byte.
-/
namespace WorkspaceImport.Shell

def ofBytes (bytes : List UInt8) : String :=
  String.ofList (bytes.map fun b => Char.ofNat b.toNat)

def toBytes (s : String) : ByteArray :=
  ⟨(s.toList.map fun c => UInt8.ofNat c.toNat).toArray⟩

def spread (s : String) : String :=
  ofBytes s.toUTF8.toList

def gather? (s : String) : Option String :=
  String.fromUTF8? (toBytes s)

def pathOf (s : String) : Path :=
  Path.ofString ((gather? s).getD s)

end WorkspaceImport.Shell
