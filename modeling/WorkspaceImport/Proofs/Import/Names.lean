import WorkspaceImport.Proofs.Import.Run
import WorkspaceImport.Proofs.Package.Tree
import Mathlib.Data.List.Forall2
/-!
Projects and the packages that they are made for. A project is named like the last segment of its
package, so packages get projects of their own exactly where no two of them end in the same segment,
and none in the name of the workspace's own project.
-/
namespace WorkspaceImport

theorem exists_mem_of_forall₂ {α β : Type} {R : α → β → Prop} {xs : List α} {ys : List β}
    (related : List.Forall₂ R xs ys) {x : α} (member : x ∈ xs) : ∃ y ∈ ys, R x y := by
  induction related with
  | nil => cases member
  | @cons _ y _ _ first _ ih =>
    rcases List.mem_cons.1 member with rfl | later
    · exact ⟨y, List.mem_cons_self, first⟩
    · obtain ⟨z, found, holds⟩ := ih later
      exact ⟨z, List.mem_cons_of_mem _ found, holds⟩

/-- Packages of a tree, in any order and as often as somebody likes. -/
def PackageNode.Selects (root : PackageNode) (selected : List PackageNode) : Prop :=
  ∀ n ∈ selected, n ∈ root.walk ∧ n.isWorkspaceRoot = false

namespace PackageNode

variable {root n m : PackageNode} {selected : List PackageNode}

theorem IsTree.name_ne (tree : root.IsTree) (selects : root.Selects selected)
    (member : n ∈ selected) : root.name ≠ n.name := by
  intro same
  obtain ⟨inside, package⟩ := selects n member
  rw [← tree.eq_of_name root.mem_walk inside same, tree.isRoot] at package
  cases package

theorem Selects.filter (selects : root.Selects selected) :
    (selected.filter fun n => !n.isWorkspaceRoot) = selected := by
  apply List.filter_eq_self.2
  intro n member
  rw [(selects n member).2]
  rfl

end PackageNode

namespace Import

variable {root : PackageNode} {selected rest : List PackageNode} {layouts : OrderedMap String Layout}
  {infos : Records} {n : PackageNode}

theorem exists_get?_of_tree {α : Type} {R : PackageNode → α → Prop} {pairs : List (String × α)}
    (tree : root.IsTree) (selects : root.Selects selected)
    (kept : List.Forall₂ (fun m e => e.1 = m.name ∧ R m e.2) selected pairs) (member : n ∈ selected) :
    ∃ x, (OrderedMap.ofList pairs).get? n.name = some x ∧ R n x := by
  rw [OrderedMap.get?_ofList]
  cases last : (pairs.filter (·.1 = n.name)).getLast? with
  | none =>
    obtain ⟨e, inside, same, _⟩ := exists_mem_of_forall₂ kept member
    have present : e ∈ pairs.filter (·.1 = n.name) := List.mem_filter.2 ⟨inside, by simp [same]⟩
    rw [List.getLast?_eq_none_iff.1 last] at present
    cases present
  | some e =>
    obtain ⟨inside, same⟩ := List.mem_filter.1 (List.mem_of_getLast? last)
    obtain ⟨m, other, named, holds⟩ := exists_mem_of_forall₂ kept.flip inside
    have equal : m = n := tree.eq_of_name (selects m other).1 (selects n member).1
      (named.symm.trans (of_decide_eq_true same))
    exact ⟨e.2, rfl, equal ▸ holds⟩

theorem get?_names (tree : root.IsTree) (selects : root.Selects selected) (member : n ∈ selected) :
    (OrderedMap.ofList (selected.map fun n => (n.name, n.lastSegment))).get? n.name =
      some n.lastSegment := by
  have kept : List.Forall₂ (fun m (e : String × String) => e.1 = m.name ∧ m.lastSegment = e.2)
      selected (selected.map fun n => (n.name, n.lastSegment)) := by
    rw [List.forall₂_map_right_iff, List.forall₂_same]
    exact fun _ _ => ⟨rfl, rfl⟩
  obtain ⟨segment, found, rfl⟩ := exists_get?_of_tree tree selects kept member
  exact found

theorem name_request (tree : root.IsTree) (selects : root.Selects selected)
    (member : n ∈ selected) :
    ((planFor selected layouts infos).request n).name = n.lastSegment := by
  simp only [Plan.request, planFor]
  rw [get?_names tree selects member, Option.getD_some]

theorem rest_of_order (tree : root.IsTree) (selects : root.Selects selected)
    {ordered : List PackageNode} {infos : List PackageInfo}
    (returned : ImportOrder.order root selected infos = .ok ordered) :
    ∃ rest, ordered = root :: rest ∧ (ordered.filter fun n => !n.isWorkspaceRoot) = rest ∧
      (rest.map (·.name)).Nodup ∧ ∀ n, n ∈ rest ↔ n ∈ selected := by
  obtain ⟨rest, rfl, distinct, all, first, _⟩ := ImportOrder.packages_of_order returned
  have chosen : ∀ n ∈ rest, n ∈ selected := fun n member =>
    List.mem_of_find?_eq_some (first n member)
  refine ⟨rest, rfl, ?_, distinct, fun n => ⟨chosen n, ?_⟩⟩
  · rw [List.filter_cons_of_neg (by simp [tree.isRoot])]
    exact PackageNode.Selects.filter fun n member => selects n (chosen n member)
  · intro member
    obtain ⟨m, found, same⟩ :=
      List.mem_map.1 ((all n.name).2 ⟨n, member, (selects n member).2, rfl⟩)
    have equal := tree.eq_of_name (selects m (chosen m found)).1 (selects n member).1 same
    exact equal ▸ found

theorem selected_of_order (tree : root.IsTree) (selects : root.Selects selected)
    {ordered : List PackageNode} {infos : List PackageInfo}
    (returned : ImportOrder.order root selected infos = .ok ordered) :
    ((ordered.filter fun n => !n.isWorkspaceRoot).map (·.name)).Nodup ∧
      ∀ n, n ∈ (ordered.filter fun n => !n.isWorkspaceRoot) ↔ n ∈ selected := by
  obtain ⟨rest, _, packages, distinct, members⟩ := rest_of_order tree selects returned
  rw [packages]
  exact ⟨distinct, members⟩

theorem names_requests (tree : root.IsTree) (selects : root.Selects selected)
    (chosen : ∀ n ∈ rest, n ∈ selected) :
    (rootRequest root :: rest.map (planFor selected layouts infos).request).map (·.name) =
      Project.workspaceName root.workspaceRoot :: rest.map (·.lastSegment) := by
  rw [List.map_cons, List.map_map]
  congr 1
  apply List.map_congr_left
  intro n member
  exact name_request tree selects (chosen n member)

/-- These names differ exactly if packages that end in the same segment are the same package, and
none ends in the name of the workspace. -/
theorem nodup_names_iff (tree : root.IsTree) (selects : root.Selects selected)
    (distinct : (rest.map (·.name)).Nodup) (members : ∀ n, n ∈ rest ↔ n ∈ selected) :
    (Project.workspaceName root.workspaceRoot :: rest.map (·.lastSegment)).Nodup ↔
      (∀ m ∈ selected, ∀ n ∈ selected, m.lastSegment = n.lastSegment → m.name = n.name) ∧
        ∀ n ∈ selected, n.lastSegment ≠ Project.workspaceName root.workspaceRoot := by
  rw [List.nodup_cons, List.nodup_map_iff_inj_on (List.Nodup.of_map _ distinct)]
  simp only [List.mem_map, members, not_exists, not_and]
  constructor
  · rintro ⟨apart, same⟩
    exact ⟨fun m member n other segment => congrArg _ (same m member n other segment), apart⟩
  · rintro ⟨same, apart⟩
    refine ⟨apart, fun m member n other segment => ?_⟩
    exact tree.eq_of_name (selects m member).1 (selects n other).1 (same m member n other segment)

theorem nodup_owners (tree : root.IsTree) (selects : root.Selects selected)
    (distinct : (rest.map (·.name)).Nodup) (chosen : ∀ n ∈ rest, n ∈ selected) :
    (root.name :: rest.map (·.name)).Nodup := by
  rw [List.nodup_cons]
  refine ⟨?_, distinct⟩
  intro inside
  obtain ⟨n, member, same⟩ := List.mem_map.1 inside
  exact tree.name_ne selects (chosen n member) same.symm

end Import

/-- When an import into an empty registry returns, every selected package has one project of its own,
and no project is returned twice, exactly if the packages end in different segments, none of which is
the name of the workspace's project. -/
theorem importWorkspace_projects_iff {τ : Type} {s : ImportSetting}
    {monitor : Monitor (Importing τ)} {root : PackageNode} {selected : List PackageNode}
    {w w' : World (Importing τ)} {projects : List Project} (tree : root.IsTree)
    (selects : root.Selects selected) (accepts : ∀ name, s.accepts name = true)
    (spares : monitor.SparesProjects) (start : w.client.projects = .empty)
    (returned : importWorkspace s monitor root selected w = .ok projects w') :
    (projects.Nodup ∧ ∀ n ∈ selected, projects.countP (fun p => p.package = n.name) = 1) ↔
      (∀ m ∈ selected, ∀ n ∈ selected, m.lastSegment = n.lastSegment → m.name = n.name) ∧
        ∀ n ∈ selected, n.lastSegment ≠ Project.workspaceName root.workspaceRoot := by
  obtain ⟨layouts, infos, ordered, _, sorted, serves⟩ :=
    importWorkspace_ok accepts spares returned
  rw [selects.filter] at sorted serves
  obtain ⟨distinct, members⟩ := Import.selected_of_order tree selects sorted
  generalize (ordered.filter fun n => !n.isWorkspaceRoot) = packages at serves distinct members
  rw [start] at serves
  have chosen : ∀ n ∈ packages, n ∈ selected := fun n => (members n).1
  have separate : projects.Nodup ↔
      (Project.workspaceName root.workspaceRoot :: packages.map (·.lastSegment)).Nodup := by
    rw [serves.nodup_iff .empty, Import.names_requests tree selects chosen]
  rw [← Import.nodup_names_iff tree selects distinct members, ← separate]
  constructor
  · exact And.left
  · intro once
    refine ⟨once, ?_⟩
    intro n member
    -- nothing was asked for twice, so each project is made as it was asked for
    have own := serves.eq_map_ofRequest ((serves.nodup_iff .empty).1 once) fun _ _ => rfl
    have owners : projects.map (·.package) = root.name :: packages.map (·.name) := by
      rw [own, List.map_cons, List.map_cons, List.map_map, List.map_map]
      rfl
    have apart : (projects.map (·.package)).Nodup :=
      owners ▸ Import.nodup_owners tree selects distinct chosen
    have present : n.name ∈ projects.map (·.package) := by
      rw [owners]
      exact List.mem_cons_of_mem _ (List.mem_map_of_mem ((members n).2 member))
    rw [← List.count_eq_one_of_mem apart present, List.count, List.countP_map]
    rfl

/-- A workspace with sources in some packages, a tool that finds nothing, and a host that takes every
project. -/
def ImportSetting.sample (paths : List String) : ImportSetting where
  files := ⟨paths.foldl (fun tree path => tree.put .emptyDirectory
    (Path.ofString ("ws/" ++ path ++ "/src")).segments) .emptyDirectory, []⟩
  conventions := [.text "src"]
  accepts _ := true
  tool _ _ := ⟨[], .ok .empty⟩

/-- The packages of such a workspace, side by side. -/
def PackageNode.sample (paths : List String) : PackageNode :=
  { ofPath "" with children := paths.map ofPath }

/-- All packages are imported into a new session. -/
def sampleImport (paths : List String) :
    EStateM.Result Failure (World (Importing Unit)) (List Project) :=
  importWorkspace (.sample paths) .silent (.sample paths) (paths.map PackageNode.ofPath)
    ⟨.empty, [], ⟨.empty, false, ()⟩⟩

theorem PackageNode.sample_selects {paths : List String} (below : ∀ path ∈ paths, path ≠ "") :
    (sample paths).Selects (paths.map ofPath) := by
  intro n member
  refine ⟨List.mem_cons_of_mem _ (mem_walkAll member), ?_⟩
  obtain ⟨path, inside, rfl⟩ := List.mem_map.1 member
  simpa [isWorkspaceRoot, ofPath] using below path inside

theorem Monitor.silent_sparesProjects {τ : Type} :
    (silent : Monitor (Importing τ)).SparesProjects :=
  fun _ => silent_keeps _

/-- Two packages with last segments of their own. -/
theorem importWorkspace_projects_iff_sample :
    ∃ projects w', sampleImport ["a/x", "b/y"] = .ok projects w' ∧ projects.Nodup ∧
      projects.countP (fun p => p.package = "//b/y") = 1 := by
  obtain ⟨projects, w', returned⟩ := eq_ok_of_answer? (r := sampleImport ["a/x", "b/y"])
    (by decide +kernel)
  have tree : (PackageNode.sample ["a/x", "b/y"]).IsTree :=
    ⟨by decide +kernel, by decide +kernel⟩
  have law := importWorkspace_projects_iff tree (PackageNode.sample_selects (by decide))
    (fun _ => rfl) Monitor.silent_sparesProjects rfl returned
  have different : ∀ m ∈ ["a/x", "b/y"].map PackageNode.ofPath,
      ∀ n ∈ ["a/x", "b/y"].map PackageNode.ofPath,
        m.lastSegment = n.lastSegment → m.name = n.name := by decide +kernel
  obtain ⟨distinct, once⟩ := law.2 ⟨different, by decide +kernel⟩
  exact ⟨projects, w', returned, distinct, once (.ofPath "b/y") (by simp)⟩

/-- Two packages that end in the same segment: the second one gets no project, and the project of the
first one is returned in its place. -/
theorem importWorkspace_same_segment :
    (PackageNode.sample ["a/x", "b/x"]).IsTree ∧
      (PackageNode.sample ["a/x", "b/x"]).Selects (["a/x", "b/x"].map PackageNode.ofPath) ∧
      ∃ projects w', sampleImport ["a/x", "b/x"] = .ok projects w' ∧ ¬projects.Nodup ∧
        projects.countP (fun p => p.package = "//b/x") = 0 := by
  refine ⟨⟨by decide +kernel, by decide +kernel⟩, PackageNode.sample_selects (by decide), ?_⟩
  have outcome : (answer? (sampleImport ["a/x", "b/x"])).any (fun projects =>
      !decide projects.Nodup && projects.countP (fun p => p.package = "//b/x") == 0) = true := by
    decide +kernel
  obtain ⟨projects, w', returned⟩ := eq_ok_of_answer? (r := sampleImport ["a/x", "b/x"])
    (by decide +kernel)
  rw [returned] at outcome
  simp only [answer?, Option.any_some, Bool.and_eq_true, Bool.not_eq_true', decide_eq_false_iff_not,
    beq_iff_eq] at outcome
  exact ⟨projects, w', returned, outcome.1, outcome.2⟩

end WorkspaceImport
