import WorkspaceImport.Package.Node
import Mathlib.Data.List.Nodup
/-!
Walks through trees of packages. Everything in a walk but its first node is a child of a node in it, and
where every package has a name of its own, a node is found under its name.
-/
namespace WorkspaceImport.PackageNode

variable {root n m : PackageNode}

/-- The tree of a workspace: its root has no path, and every package has a name of its own. -/
structure IsTree (root : PackageNode) : Prop where
  isRoot : root.isWorkspaceRoot = true
  distinct : (root.walk.map (·.name)).Nodup

/-- The names that lead from the root of the workspace to a package. -/
def place (n : PackageNode) : List String :=
  (Path.ofString n.relativePath).segments

theorem mem_walk (root : PackageNode) : root ∈ root.walk := by
  cases root
  rw [walk]
  exact List.mem_cons_self

theorem mem_walkAll {nodes : List PackageNode} (member : n ∈ nodes) : n ∈ walkAll nodes := by
  induction nodes with
  | nil => cases member
  | cons first rest ih =>
    rw [walkAll, List.mem_append]
    rcases List.mem_cons.1 member with rfl | later
    · exact .inl n.mem_walk
    · exact .inr (ih later)

theorem IsTree.eq_of_name (tree : root.IsTree) (member : n ∈ root.walk) (other : m ∈ root.walk)
    (same : n.name = m.name) : n = m :=
  List.inj_on_of_nodup_map tree.distinct member other same

theorem walkAll_eq_flatMap (nodes : List PackageNode) : walkAll nodes = nodes.flatMap walk := by
  induction nodes with
  | nil => rfl
  | cons n rest ih => rw [walkAll, ih, List.flatMap_cons]

theorem walkAll_flatMap {α : Type} (parts : List α) (nodes : α → List PackageNode) :
    walkAll (parts.flatMap nodes) = parts.flatMap fun part => walkAll (nodes part) := by
  simp only [walkAll_eq_flatMap, List.flatMap_assoc]

theorem walk_eq (n : PackageNode) : n.walk = n :: walkAll n.children := by
  cases n
  rw [walk]

section Within

variable {depth : Nat} {nodes : List PackageNode}

theorem walkAllWithin_eq (each : ∀ n ∈ nodes, n.walkWithin depth = some n.walk) :
    walkAllWithin depth nodes = some (walkAll nodes) := by
  induction nodes with
  | nil => rw [walkAllWithin, walkAll]
  | cons n rest ih =>
    obtain ⟨first, others⟩ := List.forall_mem_cons.1 each
    rw [walkAllWithin, walkAll, first, ih others]
    rfl

theorem walkWithin_succ (each : ∀ c ∈ n.children, c.walkWithin depth = some c.walk) :
    n.walkWithin (depth + 1) = some n.walk := by
  cases n
  rw [walkWithin, walkAllWithin_eq each, walk]
  rfl

end Within

mutual

theorem exists_parent_walk {c : PackageNode} (n : PackageNode) (member : c ∈ n.walk) :
    c = n ∨ ∃ m ∈ n.walk, c ∈ m.children :=
  match n with
  | ⟨name, root, path, children⟩ => by
    rw [walk] at member ⊢
    rcases List.mem_cons.1 member with first | later
    · exact .inl first
    · refine .inr ?_
      rcases exists_parent_walkAll children later with child | ⟨m, inside, child⟩
      · exact ⟨_, List.mem_cons_self, child⟩
      · exact ⟨m, List.mem_cons_of_mem _ inside, child⟩

theorem exists_parent_walkAll {c : PackageNode} (nodes : List PackageNode)
    (member : c ∈ walkAll nodes) : c ∈ nodes ∨ ∃ m ∈ walkAll nodes, c ∈ m.children :=
  match nodes with
  | [] => by cases member
  | n :: rest => by
    rw [walkAll, List.mem_append] at member
    simp only [walkAll, List.mem_append, List.mem_cons]
    rcases member with inside | later
    · rcases exists_parent_walk n inside with same | ⟨m, within, child⟩
      · exact .inl (.inl same)
      · exact .inr ⟨m, .inl within, child⟩
    · rcases exists_parent_walkAll rest later with child | ⟨m, within, child⟩
      · exact .inl (.inr child)
      · exact .inr ⟨m, .inr within, child⟩

end

theorem IsTree.find?_name {tree n : PackageNode} (isTree : tree.IsTree) (member : n ∈ tree.walk) :
    tree.find? n.name = some n := by
  rw [find?]
  cases search : tree.walk.find? fun m => m.name = n.name with
  | none => exact absurd (List.find?_eq_none.1 search n member) (by simp)
  | some m =>
    have same : m.name = n.name := by simpa using List.find?_some search
    rw [isTree.eq_of_name (List.mem_of_find?_eq_some search) member same]

end WorkspaceImport.PackageNode
