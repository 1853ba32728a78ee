import WorkspaceImport.Proofs.Import.Names
/-!
What an import makes of packages whose last segments differ. Every package becomes a project of its
own, with what the layout of the package and the records that were resolved say about it, and the
projects follow the order of the import.
-/
namespace WorkspaceImport

namespace Import

/-- What becomes of a package in an import of a selection. -/
structure Becomes (s : ImportSetting) (selected : List PackageNode) (infos : Records)
    (n : PackageNode) (p : Project) : Prop where
  name : p.name = n.lastSegment
  package : p.package = n.name
  packagePath : p.packagePath = n.relativePath
  layout : Layout.ofPackage s.files s.conventions n = .ok ⟨p.sourcePaths, p.targets⟩
  generatedSources : p.generatedSources =
    ((infos.values.filter fun info => info.package = n.name).flatMap
      (·.generatedSources)).eraseDups
  references : p.references =
    ((ImportOrder.packages selected).filter fun m =>
      m.name ≠ n.name ∧ ImportOrder.DependsOn infos.values n.name m.name).map (·.lastSegment)
  isPackage : p.isWorkspaceRoot = false

theorem Becomes.of_filter {s : ImportSetting} {selected : List PackageNode} {infos : Records}
    {n : PackageNode} {p : Project}
    (becomes : Becomes s (selected.filter fun n => !n.isWorkspaceRoot) infos n p) :
    Becomes s selected infos n p :=
  { becomes with references := by rw [becomes.references, ImportOrder.packages_filter] }

theorem generatedSources_eq (package : String) (infos : List PackageInfo) :
    generatedSources package infos =
      ((infos.filter fun info => info.package = package).flatMap (·.generatedSources)).eraseDups := by
  rw [generatedSources]
  generalize (infos.filter fun info => info.package = package).flatMap (·.generatedSources) = paths
  induction paths using List.reverseRecOn with
  | nil => rfl
  | append_singleton paths path ih =>
    rw [List.foldl_append, ih, eraseDups_concat]
    simp

theorem layouts_ok {s : ImportSetting} {selected : List PackageNode}
    {found : OrderedMap String Layout} (laidOut : layouts s selected = .ok found) :
    ∃ pairs, found = OrderedMap.ofList pairs ∧ List.Forall₂ (fun n e =>
      e.1 = n.name ∧ Layout.ofPackage s.files s.conventions n = .ok e.2) selected pairs := by
  simp only [layouts, except_bind_eq_ok] at laidOut
  obtain ⟨pairs, mapped, ended⟩ := laidOut
  cases ended
  refine ⟨pairs, rfl, (mapM_eq_ok_iff.1 mapped).imp fun n e made => ?_⟩
  obtain ⟨layout, own, entry⟩ := except_bind_eq_ok.1 made
  cases entry
  exact ⟨rfl, own⟩

section Tree

variable {root n : PackageNode} {selected : List PackageNode}

theorem references_request {layouts : OrderedMap String Layout} {infos : Records}
    (tree : root.IsTree) (selects : root.Selects selected) (member : n ∈ selected) :
    ((planFor selected layouts infos).request n).references =
      ((ImportOrder.packages selected).filter fun m =>
        m.name ≠ n.name ∧ ImportOrder.DependsOn infos.values n.name m.name).map (·.lastSegment) := by
  have known : n.name ∈ (ImportOrder.packages selected).map (·.name) :=
    ImportOrder.mem_names_iff.2 ⟨n, member, (selects n member).2, rfl⟩
  simp only [Plan.request, planFor]
  rw [ImportOrder.get?_graph, if_pos known, Option.getD_some, ImportOrder.successors,
    List.filter_map, List.filterMap_map]
  have edges : ((fun name => decide (name ≠ n.name) &&
      (ImportOrder.dependedOn n.name infos.values).contains name) ∘ PackageNode.name) =
      fun m => decide (m.name ≠ n.name ∧ ImportOrder.DependsOn infos.values n.name m.name) := by
    funext m
    simp [← ImportOrder.mem_dependedOn]
  rw [edges]
  apply List.filterMap_eq_map_iff_forall_eq_some.2
  intro m chosen
  have first := ImportOrder.mem_packages_iff.1 (List.mem_filter.1 chosen).1
  exact get?_names tree selects (List.mem_of_find?_eq_some first)

theorem becomes_request {s : ImportSetting} {layouts : OrderedMap String Layout} {infos : Records}
    (tree : root.IsTree) (selects : root.Selects selected)
    (laidOut : Import.layouts s selected = .ok layouts) (member : n ∈ selected) :
    Becomes s selected infos n (.ofRequest ((planFor selected layouts infos).request n)) where
  name := name_request tree selects member
  package := rfl
  packagePath := rfl
  layout := by
    obtain ⟨pairs, rfl, kept⟩ := layouts_ok laidOut
    obtain ⟨layout, found, own⟩ := exists_get?_of_tree
      (R := fun n layout => Layout.ofPackage s.files s.conventions n = .ok layout)
      tree selects kept member
    simp only [Project.ofRequest, Plan.request, planFor, found, Option.elim_some]
    exact own
  generatedSources := generatedSources_eq n.name infos.values
  references := references_request tree selects member
  isPackage := (selects n member).2

end Tree

end Import

/-- When an import into an empty registry returns, and the packages that were selected end in
different segments, none of which is the name of the workspace's project, then the answer is the
project of the workspace and one project for every package, in the order that was found for the
packages and the records. Each is what becomes of its package. -/
theorem importWorkspace_becomes {τ : Type} {s : ImportSetting} {monitor : Monitor (Importing τ)}
    {root : PackageNode} {selected : List PackageNode} {w w' : World (Importing τ)}
    {projects : List Project} (tree : root.IsTree) (nodes : ∀ n ∈ selected, n ∈ root.walk)
    (segments : ∀ m ∈ selected, ∀ n ∈ selected, m.isWorkspaceRoot = false →
      n.isWorkspaceRoot = false → m.lastSegment = n.lastSegment → m.name = n.name)
    (apart : ∀ n ∈ selected, n.isWorkspaceRoot = false →
      n.lastSegment ≠ Project.workspaceName root.workspaceRoot)
    (accepts : ∀ name, s.accepts name = true) (spares : monitor.SparesProjects)
    (start : w.client.projects = .empty)
    (returned : importWorkspace s monitor root selected w = .ok projects w') :
    let packages := selected.filter fun n => !n.isWorkspaceRoot
    ∃ layouts infos rest made, Import.layouts s packages = .ok layouts ∧
      Import.Resolves s monitor root packages (Import.setInProgress true w) layouts infos ∧
      ImportOrder.order root selected infos.values = .ok (root :: rest) ∧
      (rest.map (·.name)).Nodup ∧
      (∀ n, n ∈ rest ↔ n ∈ selected ∧ n.isWorkspaceRoot = false) ∧
      projects = .ofRequest (Import.rootRequest root) :: made ∧
      List.Forall₂ (Import.Becomes s selected infos) rest made := by
  intro packages
  have member_iff (n : PackageNode) : n ∈ packages ↔ n ∈ selected ∧ n.isWorkspaceRoot = false := by
    rw [List.mem_filter, Bool.not_eq_true']
  have selects : root.Selects packages := fun n member =>
    ⟨nodes n ((member_iff n).1 member).1, ((member_iff n).1 member).2⟩
  obtain ⟨layouts, infos, ordered, laidOut, resolves, sorted, serves⟩ :=
    importWorkspace_resolves accepts spares returned
  obtain ⟨rest, rfl, behind, distinct, members⟩ := Import.rest_of_order tree selects sorted
  rw [behind, start] at serves
  have chosen : ∀ n ∈ rest, n ∈ packages := fun n => (members n).1
  have names : (Project.workspaceName root.workspaceRoot :: rest.map (·.lastSegment)).Nodup := by
    refine (Import.nodup_names_iff tree selects distinct members).2
      ⟨fun m member n other => ?_, fun n member => ?_⟩
    · obtain ⟨left, package⟩ := (member_iff m).1 member
      obtain ⟨right, package'⟩ := (member_iff n).1 other
      exact segments m left n right package package'
    · obtain ⟨inside, package⟩ := (member_iff n).1 member
      exact apart n inside package
  rw [← Import.names_requests tree selects chosen] at names
  -- the names are all new to the registry, so nothing is served from what is recorded
  have made := serves.eq_map_ofRequest names fun _ _ => rfl
  rw [List.map_cons, List.map_map] at made
  refine ⟨layouts, infos, rest, _, laidOut, resolves, ?_, distinct, ?_, made, ?_⟩
  · rw [← ImportOrder.order_filter]
    exact sorted
  · intro n
    rw [members, member_iff]
  · rw [List.forall₂_map_right_iff, List.forall₂_same]
    intro n member
    exact (Import.becomes_request tree selects laidOut (chosen n member)).of_filter

/-- Two packages, the first of which depends on the second and on one that is not selected. The tool
finds two records of it, which share a directory of generated sources. -/
def ImportSetting.generating : ImportSetting where
  files := (sample ["a/x", "b/y"]).files
  conventions := (sample ["a/x", "b/y"]).conventions
  accepts _ := true
  tool _ target := ⟨[], .ok (if target = "//a/x:*" then
    Records.ofInfos [
      ⟨"//a/x:lib", [], ["//b/y:lib", "//c:lib"], ["gen/java", "gen/proto"], "", ""⟩,
      ⟨"//a/x:test", [], ["//a/x:lib"], ["gen/proto", "gen/test"], "", ""⟩] else .empty)⟩

/-- The root is selected as well, and a package twice. -/
theorem importWorkspace_becomes_sample :
    let root := PackageNode.sample ["a/x", "b/y"]
    let selected := root :: ["a/x", "b/y", "a/x"].map PackageNode.ofPath
    let start : World (Importing Unit) := ⟨.empty, [], ⟨.empty, false, ()⟩⟩
    ∃ projects w', importWorkspace .generating .silent root selected start = .ok projects w' ∧
      projects.map (·.name) = ["Bazel Workspace", "y", "x"] ∧
      projects.map (·.references) = [[], [], ["y"]] ∧
      projects.map (·.generatedSources) = [[], [], ["gen/java", "gen/proto", "gen/test"]] ∧
      ∃ infos rest made, ImportOrder.order root selected (OrderedMap.values infos) =
          .ok (root :: rest) ∧
        projects = .ofRequest (Import.rootRequest root) :: made ∧
        List.Forall₂ (Import.Becomes .generating selected infos) rest made := by
  intro root selected start
  obtain ⟨projects, w', returned⟩ := eq_ok_of_answer?
    (r := importWorkspace .generating .silent root selected start) (by decide +kernel)
  have outcome : (answer? (importWorkspace .generating .silent root selected start)).map
      (fun projects => projects.map fun p => (p.name, p.references, p.generatedSources)) =
        some [("Bazel Workspace", [], []), ("y", [], []),
          ("x", ["y"], ["gen/java", "gen/proto", "gen/test"])] := by decide +kernel
  rw [returned, answer?, Option.map_some, Option.some.injEq] at outcome
  have tree : root.IsTree := ⟨by decide +kernel, by decide +kernel⟩
  have nodes : ∀ n ∈ selected, n ∈ root.walk := by
    refine List.forall_mem_cons.2 ⟨root.mem_walk, fun n member => ?_⟩
    have among : ["a/x", "b/y", "a/x"] ⊆ ["a/x", "b/y"] := by decide
    exact (PackageNode.sample_selects (by decide) n (List.map_subset _ among member)).1
  obtain ⟨_, infos, rest, made, _, _, sorted, _, _, whole, becomes⟩ :=
    importWorkspace_becomes tree nodes (by decide +kernel) (by decide +kernel) (fun _ => rfl)
      Monitor.silent_sparesProjects rfl returned
  refine ⟨projects, w', returned, ?_, ?_, ?_, infos, rest, made, sorted, whole, becomes⟩
  · have names := congrArg (List.map (·.1)) outcome
    rwa [List.map_map] at names
  · have references := congrArg (List.map (·.2.1)) outcome
    rwa [List.map_map] at references
  · have generated := congrArg (List.map (·.2.2)) outcome
    rwa [List.map_map] at generated

end WorkspaceImport
