import WorkspaceImport.ImportOrder.Graph
import WorkspaceImport.Proofs.OrderedMap
import Mathlib.Data.List.Nodup
/-!
What a selection of packages and the records say about the dependency graph. The graph has one entry
for every selected name, and an edge exactly where a record of the one package depends on a target of
the other. The node that counts for a name is the first one of the selection.
-/
namespace WorkspaceImport

/-- A package depends directly on another one. -/
def DependencyGraph.Edge (graph : DependencyGraph) (package dependency : String) : Prop :=
  ∃ dependencies, graph.get? package = some dependencies ∧ dependency ∈ dependencies

def DependencyGraph.Closed (graph : DependencyGraph) : Prop :=
  ∀ package dependency, graph.Edge package dependency → dependency ∈ graph.keys

theorem DependencyGraph.Edge.source {graph : DependencyGraph} {package dependency : String}
    (edge : graph.Edge package dependency) : package ∈ graph.keys := by
  obtain ⟨dependencies, found, _⟩ := edge
  exact OrderedMap.contains_iff_mem_keys.1 (OrderedMap.contains_iff.2 ⟨dependencies, found⟩)

/-- What a package depends on, in the order of the graph. -/
def DependencyGraph.dependencies (graph : DependencyGraph) (package : String) : List String :=
  (graph.get? package).getD []

theorem DependencyGraph.mem_dependencies {graph : DependencyGraph} {package dependency : String} :
    dependency ∈ graph.dependencies package ↔ graph.Edge package dependency := by
  rw [dependencies, Edge]
  cases graph.get? package <;> simp

namespace ImportOrder

/-- A node counts as a package of a name. -/
def isPackage (name : String) (n : PackageNode) : Bool :=
  !n.isWorkspaceRoot && decide (n.name = name)

theorem isPackage_iff {name : String} {n : PackageNode} :
    isPackage name n = true ↔ n.isWorkspaceRoot = false ∧ n.name = name := by
  simp [isPackage]

section Packages

variable {seen : List String} {nodes selected : List PackageNode} {name : String} {n : PackageNode}

theorem distinctNodes_skip (skipped : (n.isWorkspaceRoot || seen.contains n.name) = true) :
    distinctNodes seen (n :: nodes) = distinctNodes seen nodes := by
  rw [distinctNodes, if_pos skipped]

theorem distinctNodes_take (taken : ¬(n.isWorkspaceRoot || seen.contains n.name) = true) :
    distinctNodes seen (n :: nodes) = n :: distinctNodes (n.name :: seen) nodes := by
  rw [distinctNodes, if_neg taken]

theorem find?_distinctNodes (seen : List String) (nodes : List PackageNode) (name : String) :
    (distinctNodes seen nodes).find? (fun n => n.name = name) =
      if name ∈ seen then none else nodes.find? (isPackage name) := by
  induction nodes generalizing seen with
  | nil => simp [distinctNodes]
  | cons n rest ih =>
    by_cases skipped : (n.isWorkspaceRoot || seen.contains n.name) = true
    · rw [distinctNodes_skip skipped, ih]
      by_cases met : name ∈ seen
      · rw [if_pos met, if_pos met]
      · rw [if_neg met, if_neg met, List.find?_cons_of_neg]
        rw [isPackage_iff]
        rintro ⟨package, rfl⟩
        simp only [package, Bool.false_or, List.contains_iff_mem] at skipped
        exact met skipped
    · rw [distinctNodes_take skipped]
      simp only [Bool.or_eq_true, List.contains_iff_mem, not_or, Bool.not_eq_true] at skipped
      by_cases same : n.name = name
      · have outside : name ∉ seen := same ▸ skipped.2
        have first : decide (n.name = name) = true := decide_eq_true same
        rw [List.find?_cons, first, if_neg outside,
          List.find?_cons_of_pos (isPackage_iff.2 ⟨skipped.1, same⟩)]
      · have differ : ¬name = n.name := fun h => same h.symm
        rw [List.find?_cons_of_neg (by simpa using same), ih]
        simp only [List.mem_cons, differ, false_or]
        rw [List.find?_cons_of_neg (fun package => same (isPackage_iff.1 package).2)]

theorem find?_packages (selected : List PackageNode) (name : String) :
    (packages selected).find? (fun n => n.name = name) = selected.find? (isPackage name) := by
  rw [packages, find?_distinctNodes]
  simp

theorem not_mem_seen (member : n ∈ distinctNodes seen nodes) :
    n.isWorkspaceRoot = false ∧ n.name ∉ seen := by
  induction nodes generalizing seen with
  | nil => cases member
  | cons first rest ih =>
    by_cases skipped : (first.isWorkspaceRoot || seen.contains first.name) = true
    · rw [distinctNodes_skip skipped] at member
      exact ih member
    · rw [distinctNodes_take skipped] at member
      simp only [Bool.or_eq_true, List.contains_iff_mem, not_or, Bool.not_eq_true] at skipped
      rcases List.mem_cons.1 member with rfl | later
      · exact skipped
      · obtain ⟨package, outside⟩ := ih later
        exact ⟨package, fun met => outside (List.mem_cons_of_mem _ met)⟩

theorem nodup_distinctNodes (seen : List String) (nodes : List PackageNode) :
    ((distinctNodes seen nodes).map (·.name)).Nodup := by
  induction nodes generalizing seen with
  | nil => exact List.nodup_nil
  | cons n rest ih =>
    by_cases skipped : (n.isWorkspaceRoot || seen.contains n.name) = true
    · rw [distinctNodes_skip skipped]
      exact ih seen
    · rw [distinctNodes_take skipped, List.map_cons, List.nodup_cons]
      refine ⟨?_, ih _⟩
      intro again
      obtain ⟨m, member, same⟩ := List.mem_map.1 again
      exact (not_mem_seen member).2 (same ▸ List.mem_cons_self)

theorem nodup_packages (selected : List PackageNode) :
    ((packages selected).map (·.name)).Nodup :=
  nodup_distinctNodes [] selected

theorem packages_filter (selected : List PackageNode) :
    packages (selected.filter fun n => !n.isWorkspaceRoot) = packages selected := by
  have same (seen : List String) : distinctNodes seen (selected.filter fun n => !n.isWorkspaceRoot) =
      distinctNodes seen selected := by
    induction selected generalizing seen with
    | nil => rfl
    | cons n rest ih =>
      by_cases isRoot : n.isWorkspaceRoot = true
      · rw [List.filter_cons_of_neg (by simp [isRoot]), distinctNodes_skip (by simp [isRoot]), ih]
      · rw [List.filter_cons_of_pos (by simpa using isRoot), distinctNodes, distinctNodes, ih, ih]
  exact same []

/-- The names of the selected packages, each in the first of its places. -/
def selectedNames (selected : List PackageNode) : List String :=
  ((selected.filter fun n => !n.isWorkspaceRoot).map (·.name)).eraseDups

theorem map_name_distinctNodes (seen : List String) (nodes : List PackageNode) :
    (distinctNodes seen nodes).map (·.name) = (selectedNames nodes).filter (· ∉ seen) := by
  induction nodes generalizing seen with
  | nil => rfl
  | cons n rest ih =>
    by_cases isRoot : n.isWorkspaceRoot = true
    · rw [distinctNodes_skip (by simp [isRoot]), ih, selectedNames, selectedNames,
        List.filter_cons_of_neg (by simp [isRoot])]
    · have names : selectedNames (n :: rest) =
          n.name :: (selectedNames rest).filter fun name => !name == n.name := by
        rw [selectedNames, List.filter_cons_of_pos (by simpa using isRoot), List.map_cons,
          List.eraseDups_cons, eraseDups_filter, selectedNames]
      by_cases met : n.name ∈ seen
      · rw [distinctNodes_skip (by simp [met]), ih, names, List.filter_cons_of_neg (by simp [met]),
          List.filter_filter]
        apply List.filter_congr
        intro name _
        by_cases again : name ∈ seen
        · simp [again]
        · have differ : name ≠ n.name := fun same => again (same ▸ met)
          simp [again, differ]
      · rw [distinctNodes_take (by simp [isRoot, met]), List.map_cons, ih, names,
          List.filter_cons_of_pos (by simpa using met), List.filter_filter]
        congr 1
        apply List.filter_congr
        intro name _
        by_cases same : name = n.name <;> simp [same, met]

theorem map_name_packages (selected : List PackageNode) :
    (packages selected).map (·.name) = selectedNames selected := by
  rw [packages, map_name_distinctNodes]
  simp

theorem mem_packages_iff : n ∈ packages selected ↔ selected.find? (isPackage n.name) = some n := by
  rw [← find?_packages]
  constructor
  · intro member
    cases found : (packages selected).find? (fun m => m.name = n.name) with
    | none =>
      have absent := List.find?_eq_none.1 found n member
      simp at absent
    | some m =>
      have same : m.name = n.name := by simpa using List.find?_some found
      rw [List.inj_on_of_nodup_map (nodup_packages selected) (List.mem_of_find?_eq_some found)
        member same]
  · exact List.mem_of_find?_eq_some

theorem mem_names_iff :
    name ∈ (packages selected).map (·.name) ↔
      ∃ m ∈ selected, m.isWorkspaceRoot = false ∧ m.name = name := by
  have found : name ∈ (packages selected).map (·.name) ↔
      ((packages selected).find? fun m => m.name = name).isSome = true := by
    simp [List.find?_isSome]
  rw [found, find?_packages, List.find?_isSome]
  simp only [isPackage_iff]

end Packages

/-- A record of a package depends on a target of another one. -/
def DependsOn (infos : List PackageInfo) (package dependency : String) : Prop :=
  ∃ info ∈ infos, info.package = package ∧ ∃ label ∈ info.dependencies, packageOf label = dependency

instance (infos : List PackageInfo) (package dependency : String) :
    Decidable (DependsOn infos package dependency) :=
  inferInstanceAs (Decidable (∃ info ∈ infos, info.package = package ∧
    ∃ label ∈ info.dependencies, packageOf label = dependency))

theorem mem_dependedOn {infos : List PackageInfo} {package dependency : String} :
    dependency ∈ dependedOn package infos ↔ DependsOn infos package dependency := by
  simp [dependedOn, DependsOn, List.mem_flatMap, List.mem_filter, and_assoc]

theorem mem_successors {names : List String} {infos : List PackageInfo} {package name : String} :
    name ∈ successors names infos package ↔
      name ∈ names ∧ name ≠ package ∧ DependsOn infos package name := by
  simp [successors, List.mem_filter, mem_dependedOn]

section Graph

variable {selected : List PackageNode} {infos : List PackageInfo} {package dependency : String}

theorem get?_graph : (graph selected infos).get? package =
    if package ∈ (packages selected).map (·.name) then
      some (successors ((packages selected).map (·.name)) infos package)
    else none :=
  OrderedMap.get?_ofList_map (nodup_packages selected) _ package

theorem keys_graph (selected : List PackageNode) (infos : List PackageInfo) :
    (graph selected infos).keys = (packages selected).map (·.name) :=
  OrderedMap.keys_ofList_map (nodup_packages selected) _

theorem keys_graph_eq (selected : List PackageNode) (infos : List PackageInfo) :
    (graph selected infos).keys = selectedNames selected := by
  rw [keys_graph, map_name_packages]

theorem edge_graph_iff : (graph selected infos).Edge package dependency ↔
    package ∈ (packages selected).map (·.name) ∧ dependency ∈ (packages selected).map (·.name) ∧
      dependency ≠ package ∧ DependsOn infos package dependency := by
  rw [DependencyGraph.Edge, get?_graph]
  by_cases known : package ∈ (packages selected).map (·.name)
  · rw [if_pos known]
    simp only [Option.some.injEq, exists_eq_left', mem_successors, known, true_and]
  · simp [known]

theorem closed_graph (selected : List PackageNode) (infos : List PackageInfo) :
    (graph selected infos).Closed := by
  intro package dependency edge
  rw [keys_graph]
  exact (edge_graph_iff.1 edge).2.1

end Graph

end ImportOrder

end WorkspaceImport
