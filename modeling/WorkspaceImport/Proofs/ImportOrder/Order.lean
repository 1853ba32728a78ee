import WorkspaceImport.Proofs.ImportOrder.Traversal
/-!
The order of an import. Where there is one, it begins with the root of the workspace, has every
selected package once, and no package stands before another one that it depends on.
-/
namespace WorkspaceImport

/-- The node of a path in a workspace of which nothing else is known. -/
def PackageNode.ofPath (path : String) : PackageNode :=
  ⟨"//" ++ path, Path.ofString "/ws", path, []⟩

namespace ImportOrder

/-- A name is that of a selected package. -/
def Selected (selected : List PackageNode) (name : String) : Prop :=
  ∃ n ∈ selected, n.isWorkspaceRoot = false ∧ n.name = name

/-- The nodes of an order, by their names. -/
def nodesOf (selected : List PackageNode) (names : List String) : List PackageNode :=
  names.filterMap fun name => (packages selected).find? fun n => n.name = name

theorem map_name_nodesOf {selected : List PackageNode} {names : List String}
    (known : ∀ name ∈ names, name ∈ (packages selected).map (·.name)) :
    (nodesOf selected names).map (·.name) = names := by
  induction names with
  | nil => rfl
  | cons name rest ih =>
    obtain ⟨m, member, same⟩ := List.mem_map.1 (known name List.mem_cons_self)
    obtain ⟨n, found⟩ := Option.isSome_iff_exists.1 (List.find?_isSome.2 ⟨m, member,
      decide_eq_true same⟩ : ((packages selected).find? fun n => n.name = name).isSome = true)
    have named : n.name = name := by simpa using List.find?_some found
    have others := ih fun other later => known other (List.mem_cons_of_mem name later)
    rw [nodesOf] at others ⊢
    rw [List.filterMap_cons, found, List.map_cons, named, others]

theorem mem_packages_of_mem_nodesOf {selected : List PackageNode} {names : List String}
    {n : PackageNode} (member : n ∈ nodesOf selected names) : n ∈ packages selected := by
  obtain ⟨name, _, found⟩ := List.mem_filterMap.1 member
  exact List.mem_of_find?_eq_some found

theorem order_ok {root : PackageNode} {selected result : List PackageNode}
    {infos : List PackageInfo} (returned : order root selected infos = .ok result) :
    ∃ names, postOrder (graph selected infos) = .ok names ∧
      result = root :: nodesOf selected names := by
  unfold order at returned
  split at returned
  next => cases returned
  next names run =>
    cases returned
    exact ⟨names, run, rfl⟩

theorem map_name_of_postOrder {selected : List PackageNode} {infos : List PackageInfo}
    {names : List String} (returned : postOrder (graph selected infos) = .ok names) :
    (nodesOf selected names).map (·.name) = names := by
  apply map_name_nodesOf
  intro name member
  rw [← keys_graph selected infos]
  exact ((postOrder_ok (closed_graph selected infos) returned).2.1 name).1 member

theorem order_filter {root : PackageNode} {selected : List PackageNode} {infos : List PackageInfo} :
    order root (selected.filter fun n => !n.isWorkspaceRoot) infos = order root selected infos := by
  rw [order, order, graph, graph, packages_filter]

/-- What stands behind the root in an order of an import: the first node of every selected package,
so that no package waits for a later one. -/
theorem packages_of_order {root : PackageNode} {selected result : List PackageNode}
    {infos : List PackageInfo} (returned : order root selected infos = .ok result) :
    ∃ rest, result = root :: rest ∧ (rest.map (·.name)).Nodup ∧
      (∀ name, name ∈ rest.map (·.name) ↔ Selected selected name) ∧
      (∀ n ∈ rest, selected.find? (isPackage n.name) = some n) ∧
      DependenciesFirst (graph selected infos) (rest.map (·.name)).reverse := by
  obtain ⟨names, run, whole⟩ := order_ok returned
  obtain ⟨distinct, all, ordered⟩ := postOrder_ok (closed_graph selected infos) run
  refine ⟨nodesOf selected names, whole, ?_⟩
  rw [map_name_of_postOrder run]
  refine ⟨distinct, ?_, ?_, ordered⟩
  · intro name
    rw [all, keys_graph]
    exact mem_names_iff
  · intro n member
    exact mem_packages_iff.1 (mem_packages_of_mem_nodesOf member)

/-- An order of an import begins with the root. The names of the selected packages follow, each once
and as the first node that was selected for it, and a package stands behind all others that its
records depend on. -/
theorem order_dependencies_first {root : PackageNode} {selected result : List PackageNode}
    {infos : List PackageInfo} (returned : order root selected infos = .ok result) :
    ∃ rest, result = root :: rest ∧ (rest.map (·.name)).Nodup ∧
      (∀ name, name ∈ rest.map (·.name) ↔ Selected selected name) ∧
      (∀ n ∈ rest, selected.find? (isPackage n.name) = some n) ∧
      (∀ package dependency, (graph selected infos).Edge package dependency ↔
        Selected selected package ∧ Selected selected dependency ∧ dependency ≠ package ∧
          DependsOn infos package dependency) ∧
      ∀ package dependency, (graph selected infos).Edge package dependency →
        ∃ earlier later, rest.map (·.name) = earlier ++ package :: later ∧
          dependency ∈ earlier := by
  obtain ⟨rest, whole, distinct, all, first, ordered⟩ := packages_of_order returned
  refine ⟨rest, whole, distinct, all, first, ?_, ?_⟩
  · intro package dependency
    rw [edge_graph_iff, mem_names_iff, mem_names_iff]
    rfl
  · intro package dependency edge
    have member : package ∈ (rest.map (·.name)).reverse := by
      rw [List.mem_reverse, all]
      exact mem_names_iff.1 (edge_graph_iff.1 edge).1
    obtain ⟨later, earlier, split, found⟩ := ordered.split member edge
    refine ⟨earlier.reverse, later.reverse, ?_, List.mem_reverse.2 found⟩
    rw [← List.reverse_reverse (rest.map (·.name)), split]
    simp

/-- The root is selected too, and one package twice; it depends on the one that is selected last. -/
theorem order_dependencies_first_sample :
    let selected := ["a", "", "a", "b"].map PackageNode.ofPath
    let infos : List PackageInfo := [⟨"//a", [], ["//b:lib", "//c"], [], "", ""⟩]
    ∃ rest, order (PackageNode.ofPath "") selected infos = .ok (PackageNode.ofPath "" :: rest) ∧
      ∃ earlier later, rest.map (·.name) = earlier ++ "//a" :: later ∧ "//b" ∈ earlier := by
  intro selected infos
  cases run : order (PackageNode.ofPath "") selected infos with
  | error f =>
    have returns : (order (PackageNode.ofPath "") selected infos).toBool = true := by
      decide +kernel
    rw [run] at returns
    cases returns
  | ok result =>
    obtain ⟨rest, whole, _, _, _, _, before⟩ := order_dependencies_first run
    have edge : (graph selected infos).Edge "//a" "//b" :=
      ⟨["//b"], by decide +kernel, List.mem_singleton.2 rfl⟩
    exact ⟨rest, by rw [whole], before _ _ edge⟩

end ImportOrder

end WorkspaceImport
