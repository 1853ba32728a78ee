import WorkspaceImport.Yaml.Kind
/-!
The nodes of a YAML document. A reference leads back to a node that was named before, which may be one
that the reference stands in; so nodes know one another by their places in a graph.
-/
namespace WorkspaceImport.Yaml

structure NodeId where
  value : Nat
  deriving DecidableEq, Inhabited

abbrev NodeEntry := NodeId × NodeId

inductive Content where
  | scalar (text : String)
  | sequence (items : List NodeId)
  | mapping (entries : List NodeEntry)
  deriving Inhabited

structure Node where
  kind : Kind
  content : Content

def Node.empty : Node := ⟨.null, .scalar ""⟩

instance : Inhabited Node := ⟨.empty⟩

structure Graph where
  nodes : Array Node

namespace Graph

def empty : Graph := ⟨#[]⟩

def size (g : Graph) : Nat :=
  g.nodes.size

def node (g : Graph) (id : NodeId) : Node :=
  g.nodes[id.value]?.getD .empty

def kind (g : Graph) (id : NodeId) : Kind :=
  (g.node id).kind

def content (g : Graph) (id : NodeId) : Content :=
  (g.node id).content

def entries (g : Graph) (id : NodeId) : List NodeEntry :=
  match g.content id with
  | .mapping entries => entries
  | _ => []

def nextId (g : Graph) : NodeId :=
  ⟨g.nodes.size⟩

def add (g : Graph) (n : Node) : Graph :=
  ⟨g.nodes.push n⟩

def setContent (g : Graph) (id : NodeId) (content : Content) : Graph :=
  ⟨g.nodes.modify id.value fun n => { n with content := content }⟩

def setKind (g : Graph) (id : NodeId) (kind : Kind) : Graph :=
  ⟨g.nodes.modify id.value fun n => { n with kind := kind }⟩

theorem size_setContent (g : Graph) (id : NodeId) (content : Content) :
    (g.setContent id content).size = g.size := by
  simp [size, setContent]

theorem size_setKind (g : Graph) (id : NodeId) (kind : Kind) :
    (g.setKind id kind).size = g.size := by
  simp [size, setKind]

end Graph

end WorkspaceImport.Yaml
