import WorkspaceImport.Proofs.Package.Reached
import WorkspaceImport.Proofs.Package.Tree
/-!
What it means that nodes stand for the packages of a workspace, and how such nodes are put together.
The packages of directories beside one another follow each other in the order of the names, and a
package stands before those below it, so a walk comes to the packages in the order of their places.
-/
namespace WorkspaceImport.Package

/-- A directory below the root of a workspace that is a package. -/
structure IsPackage (root : Path) (e : Entry) (place : List String) : Prop where
  below : place ≠ []
  visible : ∀ name ∈ place, isSkipped name = false
  reached : IsReached root place
  built : ∃ children, e.get? place = some (.directory children) ∧
    holdsFile buildFileNames children = true

/-- The nearest package above a place, or the root where there is none. -/
structure Encloses (root : Path) (e : Entry) (outer inner : List String) : Prop where
  owner : outer = [] ∨ IsPackage root e outer
  above : outer <+: inner ∧ outer ≠ inner
  nearest : ∀ place, IsPackage root e place → place <+: inner → place ≠ inner → place <+: outer

/-- Nodes that stand, with all that is below them, for the packages in a part of a workspace. -/
structure Covers (root : Path) (e : Entry) (inside : List String → Prop)
    (nodes : List PackageNode) : Prop where
  spelled : ∀ n ∈ PackageNode.walkAll nodes,
    n.relativePath = String.intercalate "/" n.place ∧ n.name = "//" ++ n.relativePath
  increasing : ((PackageNode.walkAll nodes).map (·.place)).Pairwise (· < ·)
  complete : ∀ p, p ∈ (PackageNode.walkAll nodes).map (·.place) ↔ inside p ∧ IsPackage root e p
  top : ∀ n ∈ nodes, ∀ p, inside p → IsPackage root e p → p <+: n.place → p = n.place
  nested : ∀ n ∈ PackageNode.walkAll nodes, ∀ c ∈ n.children, Encloses root e n.place c.place

def Below (place p : List String) : Prop :=
  place <+: p ∧ place ≠ p

section Parts

variable {root : Path} {e : Entry} {place : List String} {inside other : List String → Prop}
  {nodes : List PackageNode}

theorem lt_of_below {p : List String} (below : Below place p) : place < p := by
  obtain ⟨⟨rest, rfl⟩, proper⟩ := below
  cases rest with
  | nil => exact absurd (List.append_nil place).symm proper
  | cons name more => simpa using List.append_left_lt (List.nil_lt_cons name more)

theorem Covers.nil (empty : ∀ p, inside p → ¬IsPackage root e p) : Covers root e inside [] where
  spelled _ member := by cases member
  increasing := List.Pairwise.nil
  complete p := iff_of_false List.not_mem_nil fun ⟨within, package⟩ => empty p within package
  top _ member := by cases member
  nested _ member := by cases member

theorem Covers.congr (covers : Covers root e inside nodes)
    (same : ∀ p, IsPackage root e p → (inside p ↔ other p)) : Covers root e other nodes where
  spelled := covers.spelled
  increasing := covers.increasing
  complete p := by
    rw [covers.complete p]
    exact and_congr_left (same p)
  top n member p within package :=
    covers.top n member p ((same p package).2 within) package
  nested := covers.nested

theorem Covers.inside_of_mem (covers : Covers root e inside nodes) {n : PackageNode}
    (member : n ∈ nodes) : inside n.place ∧ IsPackage root e n.place :=
  (covers.complete n.place).1 (List.mem_map_of_mem (PackageNode.mem_walkAll member))

theorem Covers.encloses (covers : Covers root e (Below place) nodes)
    (owner : place = [] ∨ IsPackage root e place) {c : PackageNode} (member : c ∈ nodes) :
    Encloses root e place c.place where
  owner := owner
  above := (covers.inside_of_mem member).1
  nearest p package before proper := by
    rcases List.prefix_or_prefix_of_prefix before (covers.inside_of_mem member).1.1 with up | down
    · exact up
    · by_cases same : place = p
      · exact same ▸ List.prefix_rfl
      · exact absurd (covers.top c member p ⟨down, same⟩ package before) proper

theorem lt_of_name_lt {a b : String} (lt : a < b) {p q : List String}
    (left : place ++ [a] <+: p) (right : place ++ [b] <+: q) : p < q := by
  obtain ⟨r, rfl⟩ := left
  obtain ⟨s, rfl⟩ := right
  rw [List.append_assoc, List.append_assoc]
  exact List.append_left_lt (List.cons_lt_cons_iff.2 (.inl lt))

theorem Covers.flatMap {parts : List (String × List PackageNode)}
    (sorted : parts.Pairwise fun a b => a.1 < b.1)
    (covers : ∀ part ∈ parts, Covers root e (place ++ [part.1] <+: ·) part.2) :
    Covers root e (fun p => ∃ part ∈ parts, place ++ [part.1] <+: p) (parts.flatMap (·.2)) where
  spelled n member := by
    rw [PackageNode.walkAll_flatMap] at member
    obtain ⟨part, inside, member⟩ := List.mem_flatMap.1 member
    exact (covers part inside).spelled n member
  increasing := by
    rw [PackageNode.walkAll_flatMap, List.map_flatMap, List.pairwise_flatMap]
    refine ⟨fun part inside => (covers part inside).increasing, ?_⟩
    refine sorted.imp_of_mem fun {a b} first second lt p left q right => ?_
    exact lt_of_name_lt lt (((covers a first).complete p).1 left).1
      (((covers b second).complete q).1 right).1
  complete p := by
    rw [PackageNode.walkAll_flatMap, List.map_flatMap, List.mem_flatMap]
    constructor
    · rintro ⟨part, inside, member⟩
      obtain ⟨below, package⟩ := ((covers part inside).complete p).1 member
      exact ⟨⟨part, inside, below⟩, package⟩
    · rintro ⟨⟨part, inside, below⟩, package⟩
      exact ⟨part, inside, ((covers part inside).complete p).2 ⟨below, package⟩⟩
  top n member p within package before := by
    obtain ⟨part, inside, member⟩ := List.mem_flatMap.1 member
    obtain ⟨other, _, below⟩ := within
    -- the way to the node goes through one of the directories only
    have own := ((covers part inside).inside_of_mem member).1
    have same : place ++ [other.1] = place ++ [part.1] :=
      (List.prefix_of_prefix_length_le (below.trans before) own (by simp)).eq_of_length (by simp)
    exact (covers part inside).top n member p (same ▸ below) package before
  nested n member := by
    rw [PackageNode.walkAll_flatMap] at member
    obtain ⟨part, inside, member⟩ := List.mem_flatMap.1 member
    exact (covers part inside).nested n member

end Parts

structure Heads (root : Path) (e : Entry) (n : PackageNode) : Prop where
  spelled : ∀ m ∈ n.walk,
    m.relativePath = String.intercalate "/" m.place ∧ m.name = "//" ++ m.relativePath
  increasing : (n.walk.map (·.place)).Pairwise (· < ·)
  complete : ∀ p, p ∈ n.walk.tail.map (·.place) ↔ Below n.place p ∧ IsPackage root e p
  nested : ∀ m ∈ n.walk, ∀ c ∈ m.children, Encloses root e m.place c.place

/-- The tree of the packages of a workspace. The root comes first and stands for the workspace itself;
every package stands once in the walk, under its own name, in the order of the places, and hangs
under the nearest package above it. -/
structure Lists (root : Path) (e : Entry) (tree : PackageNode) : Prop where
  head : tree.walk.head? = some tree ∧ tree.name = "//" ∧ tree.relativePath = ""
  complete : ∀ p, p ∈ tree.walk.tail.map (·.place) ↔ IsPackage root e p
  spelled : ∀ n ∈ tree.walk,
    n.relativePath = String.intercalate "/" n.place ∧ n.name = "//" ++ n.relativePath
  increasing : (tree.walk.map (·.place)).Pairwise (· < ·)
  hung : ∀ c ∈ tree.walk.tail, ∃ n ∈ tree.walk, c ∈ n.children
  nested : ∀ n ∈ tree.walk, ∀ c ∈ n.children, Encloses root e n.place c.place
  isTree : tree.IsTree
  find : ∀ n ∈ tree.walk, tree.find? n.name = some n

section Nodes

variable {root : Path} {e : Entry} {n : PackageNode}

theorem Covers.heads (covers : Covers root e (Below n.place) n.children)
    (spelled : n.relativePath = String.intercalate "/" n.place ∧ n.name = "//" ++ n.relativePath)
    (owner : n.place = [] ∨ IsPackage root e n.place) : Heads root e n where
  spelled m member := by
    rw [n.walk_eq] at member
    rcases List.mem_cons.1 member with rfl | later
    · exact spelled
    · exact covers.spelled m later
  increasing := by
    rw [n.walk_eq, List.map_cons, List.pairwise_cons]
    refine ⟨fun p member => ?_, covers.increasing⟩
    exact lt_of_below ((covers.complete p).1 member).1
  complete p := by
    rw [n.walk_eq, List.tail_cons, covers.complete p]
  nested m member := by
    rw [n.walk_eq] at member
    rcases List.mem_cons.1 member with rfl | later
    · exact fun c child => covers.encloses owner child
    · exact covers.nested m later

theorem Heads.covers (heads : Heads root e n) (package : IsPackage root e n.place) :
    Covers root e (n.place <+: ·) [n] := by
  have walked : PackageNode.walkAll [n] = n.walk := by
    rw [PackageNode.walkAll_eq_flatMap, List.flatMap_singleton]
  constructor
  case spelled =>
    rw [walked]
    exact heads.spelled
  case increasing =>
    rw [walked]
    exact heads.increasing
  case complete =>
    intro p
    have later := heads.complete p
    rw [n.walk_eq, List.tail_cons] at later
    rw [walked, n.walk_eq, List.map_cons, List.mem_cons, later]
    constructor
    · rintro (rfl | ⟨⟨below, _⟩, found⟩)
      · exact ⟨List.prefix_rfl, package⟩
      · exact ⟨below, found⟩
    · rintro ⟨below, found⟩
      by_cases same : n.place = p
      · exact .inl same.symm
      · exact .inr ⟨⟨below, same⟩, found⟩
  case top =>
    intro m member p within _ before
    obtain rfl := List.mem_singleton.1 member
    exact before.eq_of_length_le within.length_le
  case nested =>
    rw [walked]
    exact heads.nested

theorem Covers.package {place : List String} (covers : Covers root e (Below place) n.children)
    (here : n.place = place)
    (spelled : n.relativePath = String.intercalate "/" place ∧ n.name = "//" ++ n.relativePath)
    (package : IsPackage root e place) : Covers root e (place <+: ·) [n] := by
  subst here
  exact (covers.heads spelled (.inr package)).covers package

theorem Heads.isTree (heads : Heads root e n) (isRoot : n.relativePath = "") : n.IsTree where
  isRoot := by simp [PackageNode.isWorkspaceRoot, isRoot]
  distinct := by
    refine List.pairwise_map.2 ((List.pairwise_map.1 heads.increasing).imp_of_mem ?_)
    intro m c first second lt same
    have written : m.relativePath = c.relativePath := by
      rw [(heads.spelled m first).2, (heads.spelled c second).2] at same
      exact (String.append_right_inj _).1 same
    rw [PackageNode.place, written] at lt
    exact List.lt_irrefl _ lt

theorem Heads.lists (heads : Heads root e n) (isRoot : n.relativePath = "") : Lists root e n := by
  have top : n.place = [] := by
    rw [PackageNode.place, isRoot]
    rfl
  have isTree := heads.isTree isRoot
  constructor
  case head =>
    have named := (heads.spelled n n.mem_walk).2
    rw [isRoot] at named
    exact ⟨by rw [n.walk_eq, List.head?_cons], named, isRoot⟩
  case complete =>
    intro p
    rw [heads.complete p, top]
    exact and_iff_right_of_imp fun package => ⟨List.nil_prefix, package.below.symm⟩
  case spelled => exact heads.spelled
  case increasing => exact heads.increasing
  case hung =>
    rw [n.walk_eq]
    intro c later
    rcases PackageNode.exists_parent_walkAll n.children later with child | ⟨m, inside, child⟩
    · exact ⟨n, List.mem_cons_self, child⟩
    · exact ⟨m, List.mem_cons_of_mem n inside, child⟩
  case nested => exact heads.nested
  case isTree => exact isTree
  case find => exact fun m member => isTree.find?_name member

end Nodes

end WorkspaceImport.Package
