import WorkspaceImport.Proofs.Import.Names
import WorkspaceImport.Proofs.Import.Stages
/-!
Projects refer only to projects that are there. The order of an import puts dependencies first, so
whenever the factory is asked for a project, all that it is to refer to has been recorded before, in
this import or in another one; and what is recorded stays as it is, whatever becomes of the imports
that follow.
-/
namespace WorkspaceImport

/-- Projects are recorded under their own names, and refer to projects that were recorded before
them. -/
def Registry.Layered (projects : Registry) : Prop :=
  ∀ before name project, before ++ [(name, project)] <+: projects.entries →
    project.name = name ∧ name ∉ project.references ∧
      ∀ reference ∈ project.references, reference ∈ before.map (·.1)

structure Registry.Ready (projects : Registry) (names : List String) : Prop where
  layered : projects.Layered
  known : ∀ name ∈ names, projects.contains name = true

theorem Registry.Layered.empty : Registry.Layered .empty := by
  intro before name project inside
  exact absurd (List.prefix_nil.1 inside) (List.append_ne_nil_of_right_ne_nil _ (List.cons_ne_nil _ _))

theorem Registry.Layered.add {projects projects' : Registry} {r : Project.Request}
    (layered : projects.Layered) (absent : projects.get? r.name = none)
    (known : ∀ reference ∈ r.references, projects.contains reference = true)
    (added : projects'.entries = projects.entries ++ [(r.name, Project.ofRequest r)]) :
    projects'.Layered := by
  intro before name project inside
  rw [added, List.prefix_concat_iff] at inside
  rcases inside with last | earlier
  · obtain ⟨rfl, same⟩ := List.append_inj' last rfl
    cases same
    refine ⟨rfl, ?_, ?_⟩
    · intro own
      obtain ⟨other, found⟩ := OrderedMap.contains_iff.1 (known _ own)
      rw [absent] at found
      cases found
    · exact fun reference member => OrderedMap.contains_iff_mem_keys.1 (known reference member)
  · exact layered before name project earlier

theorem Registry.contains_of_prefix {projects projects' : Registry} {name : String}
    (more : projects.entries <+: projects'.entries) (known : projects.contains name = true) :
    projects'.contains name = true := by
  rw [OrderedMap.contains_iff_mem_keys] at known ⊢
  exact (more.map (·.1)).subset known

section Ready

variable {τ : Type} {names : List String}

theorem Action.Adds.ready {α : Type} {a : Action (Importing τ) α} (adds : a.Adds)
    (layered : a.Keeps fun w => w.client.projects.Layered) :
    a.Keeps fun w => w.client.projects.Ready names := by
  intro w ready
  exact ⟨layered w ready.layered,
    fun name member => Registry.contains_of_prefix (adds.grows w) (ready.known name member)⟩

theorem Monitor.Adds.ready {monitor : Monitor (Importing τ)} (adds : monitor.Adds)
    (layered : monitor.Keeps fun w => w.client.projects.Layered) :
    monitor.Keeps fun w => w.client.projects.Ready names where
  subTask text := Action.Adds.ready (fun earlier => (adds earlier).subTask text)
    (layered.subTask text)
  worked units := Action.Adds.ready (fun earlier => (adds earlier).worked units)
    (layered.worked units)
  isCanceled := Action.Adds.ready (fun earlier => (adds earlier).isCanceled) layered.isCanceled

theorem createProject_ready {s : ImportSetting} {r : Project.Request}
    (refers : ∀ reference ∈ r.references, reference ∈ names) :
    Action.Keeps (fun w : World (Importing τ) => w.client.projects.Ready names)
      (Import.createProject s r) := by
  intro w ready
  have more := (Import.createProject_adds (s := s) r).grows w
  refine ⟨?_, fun name member => Registry.contains_of_prefix more (ready.known name member)⟩
  rcases Import.createProject_recorded (s := s) r w with same | ⟨absent, added⟩
  · have equal : (stateAfter (Import.createProject s r w)).client.projects = w.client.projects :=
      OrderedMap.ext_entries same
    rw [equal]
    exact ready.layered
  · exact ready.layered.add absent
      (fun reference member => ready.known reference (refers reference member)) added

end Ready

namespace ImportOrder

theorem DependenciesFirst.mem_earlier {graph : DependencyGraph} {later earlier : List String}
    {package dependency : String} (ordered : DependenciesFirst graph (later ++ package :: earlier))
    (edge : graph.Edge package dependency) : dependency ∈ earlier := by
  induction later with
  | nil => exact ordered.1 dependency edge
  | cons name rest ih => exact ih ordered.2

theorem mem_before_of_order {root n : PackageNode} {selected before after : List PackageNode}
    {infos : List PackageInfo} (atRoot : root.isWorkspaceRoot = true)
    (isPackage : n.isWorkspaceRoot = false)
    (returned : order root selected infos = .ok (before ++ n :: after)) {dependency : String}
    (edge : (graph selected infos).Edge n.name dependency) :
    ∃ m ∈ before, m.isWorkspaceRoot = false ∧ m.name = dependency := by
  obtain ⟨rest, whole, _, _, first, ordered⟩ := packages_of_order returned
  cases before with
  | nil =>
    cases whole
    rw [isPackage] at atRoot
    cases atRoot
  | cons head before =>
    rw [List.cons_append] at whole
    obtain ⟨rfl, rfl⟩ := List.cons.inj whole
    have turned : ((before ++ n :: after).map (·.name)).reverse =
        (after.map (·.name)).reverse ++ n.name :: (before.map (·.name)).reverse := by simp
    rw [turned] at ordered
    obtain ⟨m, member, rfl⟩ := List.mem_map.1 (List.mem_reverse.1 (ordered.mem_earlier edge))
    have named := List.find?_some (first m (List.mem_append_left _ member))
    exact ⟨m, List.mem_cons_of_mem _ member, (isPackage_iff.1 named).1, rfl⟩

end ImportOrder

namespace Import

def Plan.projectNames (plan : Plan) (nodes : List PackageNode) : List String :=
  (nodes.filter fun n => !n.isWorkspaceRoot).map fun n => (plan.request n).name

/-- In an import the factory is asked for a project, when the session has got to a state. -/
inductive Requests {τ : Type} (s : ImportSetting) (monitor : Monitor (Importing τ))
    (root : PackageNode) (packages : List PackageNode) (w : World (Importing τ)) :
    Project.Request → World (Importing τ) → Prop where
  | workspace : Requests s monitor root packages w (rootRequest root)
      (w.tell [.importStarted (Project.workspaceName root.workspaceRoot) packages.length])
  | package {rootProject : Project} {plan : Plan} {before after : List PackageNode}
      {n : PackageNode} {projects : List Project} {v u t t' : World (Importing τ)}
      (prepared : prepare s monitor root packages w =
        .ok (rootProject, plan, before ++ n :: after) v)
      (isPackage : n.isWorkspaceRoot = false)
      (went : importPackages s monitor plan before v = .ok projects u)
      (goesOn : monitor.isCanceled u = .ok false t)
      (announced : monitor.subTask ("Importing " ++ n.name) t = .ok () t') :
      Requests s monitor root packages w (plan.request n) t'

variable {τ : Type} {s : ImportSetting} {monitor : Monitor (Importing τ)} {plan : Plan}
  {root n : PackageNode} {packages before after : List PackageNode} {w u : World (Importing τ)}

theorem prepare_ok {rootProject : Project} {ordered : List PackageNode}
    (prepared : prepare s monitor root packages w = .ok (rootProject, plan, ordered) u) :
    ∃ layouts infos, plan = planFor packages layouts infos ∧
      ImportOrder.order root packages infos.values = .ok ordered := by
  simp only [prepare, Action.bind_eq_ok] at prepared
  obtain ⟨_, _, _, answer, _, _, rest⟩ := prepared
  cases answer with
  | none => cases rest
  | some project =>
    simp only [Action.bind_eq_ok] at rest
    obtain ⟨_, _, _, layouts, _, _, infos, _, _, ordered', _, sorted, _, _, _, _, _, _, ended⟩ := rest
    cases ended
    exact ⟨layouts, infos, rfl, (ofExcept_ok sorted).1⟩

theorem references_before {layouts : OrderedMap String Layout} {infos : Records}
    (atRoot : root.isWorkspaceRoot = true) (isPackage : n.isWorkspaceRoot = false)
    (sorted : ImportOrder.order root packages infos.values = .ok (before ++ n :: after)) :
    let plan := planFor packages layouts infos
    ∀ reference ∈ (plan.request n).references, reference ∈ plan.projectNames before := by
  intro plan reference member
  obtain ⟨dependency, among, named⟩ := List.mem_filterMap.1 member
  cases found : plan.graph.get? n.name with
  | none =>
    rw [found] at among
    cases among
  | some dependencies =>
    rw [found] at among
    obtain ⟨m, earlier, other, rfl⟩ :=
      ImportOrder.mem_before_of_order atRoot isPackage sorted ⟨dependencies, found, among⟩
    refine List.mem_map.2 ⟨m, List.mem_filter.2 ⟨earlier, by simp [other]⟩, ?_⟩
    rw [Plan.request, named, Option.getD_some]

section Recording

variable (accepts : ∀ name, s.accepts name = true) (adds : monitor.Adds)

include accepts adds

theorem importPackage_records {answer : Option Project}
    (returned : importPackage s monitor plan n w = .ok answer u) :
    u.client.projects.contains (plan.request n).name = true := by
  simp only [importPackage, Action.bind_eq_ok] at returned
  obtain ⟨canceled, v₁, asked, rest⟩ := returned
  cases canceled with
  | true => cases rest
  | false =>
    simp only [Bool.false_eq_true, if_false, Action.bind_eq_ok] at rest
    obtain ⟨_, v₂, announced, _, v₃, made, rest⟩ := rest
    obtain ⟨project, rfl, served⟩ := createProject_ok accepts made
    simp only [Option.isNone_some, Bool.false_eq_true, if_false, Action.bind_eq_ok] at rest
    obtain ⟨_, v₄, worked, ended⟩ := rest
    cases ended
    have more : v₃.recorded <+: u.recorded :=
      ((adds v₃.recorded).worked 1).ok worked (List.prefix_refl _)
    exact Registry.contains_of_prefix more
      (OrderedMap.contains_iff.2 ⟨project, Registry.get?_create served⟩)

theorem importPackages_records {nodes : List PackageNode} {projects : List Project}
    (returned : importPackages s monitor plan nodes w = .ok projects u) :
    ∀ name ∈ plan.projectNames nodes, u.client.projects.contains name = true := by
  induction nodes generalizing w projects with
  | nil => exact nofun
  | cons n rest ih =>
    unfold importPackages at returned
    unfold Plan.projectNames
    split at returned
    next isRoot =>
      rw [List.filter_cons_of_neg (by simp [isRoot])]
      exact ih returned
    next isPackage =>
      rw [List.filter_cons_of_pos (by simpa using isPackage), List.map_cons]
      simp only [Action.bind_eq_ok] at returned
      obtain ⟨answer, v, first, more, t, others, ended⟩ := returned
      cases ended
      have kept : v.recorded <+: u.recorded :=
        (importPackages_adds adds rest v.recorded).ok others (List.prefix_refl _)
      refine List.forall_mem_cons.2 ⟨?_, ih others⟩
      exact Registry.contains_of_prefix kept (importPackage_records accepts adds first)

theorem requests_recorded (atRoot : root.isWorkspaceRoot = true) {r : Project.Request}
    (requests : Requests s monitor root packages w r u) :
    ∀ reference ∈ r.references, u.client.projects.contains reference = true := by
  cases requests with
  | workspace => exact nofun
  | @package _ plan before after n _ v t t' _ prepared isPackage went goesOn announced =>
    obtain ⟨layouts, infos, rfl, sorted⟩ := prepare_ok prepared
    intro reference member
    have earlier := references_before atRoot isPackage sorted reference member
    have asked : t.recorded <+: t'.recorded :=
      (adds t.recorded).isCanceled.ok goesOn (List.prefix_refl _)
    have told : t.recorded <+: u.recorded := ((adds t.recorded).subTask _).ok announced asked
    exact Registry.contains_of_prefix told (importPackages_records accepts adds went _ earlier)

theorem importPackages_layered (watched : monitor.Keeps fun w => w.client.projects.Layered)
    {nodes : List PackageNode}
    (refers : ∀ before n after, nodes = before ++ n :: after → n.isWorkspaceRoot = false →
      ∀ reference ∈ (plan.request n).references, reference ∈ plan.projectNames before)
    {done left : List PackageNode} (split : nodes = done ++ left)
    (ready : w.client.projects.Ready (plan.projectNames done)) :
    (stateAfter (importPackages s monitor plan left w)).client.projects.Layered := by
  induction left generalizing done w with
  | nil => exact ready.layered
  | cons n rest ih =>
    have next : nodes = (done ++ [n]) ++ rest := by rw [split]; simp
    unfold importPackages
    split
    next isRoot =>
      have same : plan.projectNames (done ++ [n]) = plan.projectNames done := by
        simp [Plan.projectNames, isRoot]
      exact ih next (same ▸ ready)
    next isPackage =>
      have other : n.isWorkspaceRoot = false := by simpa using isPackage
      -- The registry is ready for the next package once this one is recorded in it.
      have more : plan.projectNames (done ++ [n]) =
          plan.projectNames done ++ [(plan.request n).name] := by
        simp [Plan.projectNames, isPackage]
      have kept : Action.Keeps (fun v => v.client.projects.Ready (plan.projectNames done))
          (importPackage s monitor plan n) :=
        importPackage_keep (Effect.keeps fun client => client.projects.Ready (plan.projectNames done))
          (adds.ready watched) (createProject_ready (refers done n rest split other))
      refine Action.after_bind (J := fun v : World (Importing τ) => v.client.projects.Layered) ?_ ?_
      · exact fun f v failed => (kept.error failed ready).layered
      · intro answer v made
        have after := kept.ok made ready
        have all : v.client.projects.Ready (plan.projectNames (done ++ [n])) := by
          refine ⟨after.layered, ?_⟩
          rw [more]
          intro name member
          rcases List.mem_append.1 member with earlier | last
          · exact after.known name earlier
          · rw [List.mem_singleton.1 last]
            exact importPackage_records accepts adds made
        exact Action.Keeps.after_bind (J := fun v : World (Importing τ) => v.client.projects.Layered)
          (ih next all) fun _ _ layered => layered

theorem run_layered (watched : monitor.Keeps fun w => w.client.projects.Layered)
    (atRoot : root.isWorkspaceRoot = true) (packages : List PackageNode) :
    Action.Keeps (fun w => w.client.projects.Layered) (run s monitor root packages) := by
  intro w layered
  have start : w.client.projects.Ready [] := ⟨layered, nofun⟩
  have begun : Action.Keeps (fun v => v.client.projects.Ready [])
      (prepare s monitor root packages) :=
    prepare_keep (Effect.keeps fun client => client.projects.Ready []) (adds.ready watched)
      (createProject_ready nofun) packages
  rw [run_eq]
  refine Action.after_bind (J := fun v : World (Importing τ) => v.client.projects.Layered) ?_ ?_
  · exact fun f v failed => (begun.error failed start).layered
  · rintro ⟨rootProject, plan, ordered⟩ v prepared
    obtain ⟨layouts, infos, rfl, sorted⟩ := prepare_ok prepared
    have refers : ∀ before n after, ordered = before ++ n :: after →
        n.isWorkspaceRoot = false →
        ∀ reference ∈ ((planFor packages layouts infos).request n).references,
          reference ∈ (planFor packages layouts infos).projectNames before := by
      intro before n after split isPackage
      rw [split] at sorted
      exact references_before atRoot isPackage sorted
    have loop := importPackages_layered accepts adds watched refers (List.nil_append ordered).symm
      (begun.ok prepared start)
    exact Action.Keeps.after_bind (J := fun v : World (Importing τ) => v.client.projects.Layered) loop
      fun _ => tell_keep (s := s) (Effect.keeps fun client => client.projects.Layered) _

end Recording

end Import

/-- Imports that share a registry, one after the other. What happens besides leaves the registry
alone; while an import is watched, there may be others. -/
inductive Imports {τ : Type} : World (Importing τ) → World (Importing τ) → Prop where
  | beside {v w : World (Importing τ)} (same : w.client.projects = v.client.projects) :
      Imports v w
  | imported {s : ImportSetting} {monitor : Monitor (Importing τ)} {root : PackageNode}
      (selected : List PackageNode) (w : World (Importing τ))
      (accepts : ∀ name, s.accepts name = true) (atRoot : root.isWorkspaceRoot = true)
      (subTask : ∀ text u, Imports u (stateAfter (monitor.subTask text u)))
      (worked : ∀ units u, Imports u (stateAfter (monitor.worked units u)))
      (isCanceled : ∀ u, Imports u (stateAfter (monitor.isCanceled u))) :
      Imports w (stateAfter (importWorkspace s monitor root selected w))
  | followed {u v w : World (Importing τ)} (first : Imports u v) (second : Imports v w) :
      Imports u w

namespace Imports

variable {τ : Type} {v w : World (Importing τ)}

theorem grows (imports : Imports v w) : v.recorded <+: w.recorded ∧
    (v.client.projects.Layered → w.client.projects.Layered) := by
  induction imports with
  | beside same =>
    rw [World.recorded, World.recorded, same]
    exact ⟨List.prefix_refl _, id⟩
  | @imported s monitor root selected w accepts atRoot subTask worked isCanceled ih₁ ih₂ ih₃ =>
    have adds : monitor.Adds := fun earlier =>
      ⟨fun text u start => start.trans (ih₁ text u).1,
        fun units u start => start.trans (ih₂ units u).1, fun u start => start.trans (ih₃ u).1⟩
    have watched : monitor.Keeps fun w => w.client.projects.Layered :=
      ⟨fun text u => (ih₁ text u).2, fun units u => (ih₂ units u).2, fun u => (ih₃ u).2⟩
    rw [importWorkspace, Import.stateAfter_whileInProgress]
    exact ⟨(Import.run_adds adds _).grows (Import.setInProgress true w),
      Import.run_layered accepts adds watched atRoot _ (Import.setInProgress true w)⟩
  | followed _ _ first second =>
    exact ⟨first.1.trans second.1, fun layered => second.2 (first.2 layered)⟩

end Imports

/-- Of all imports that share a registry, beginning with an empty one: every project that is recorded
refers only to projects that were recorded before it, and not to itself; what is recorded is never
changed, moved or removed. And in every import, whenever the factory is asked for a project, all that
the project is to refer to is recorded already. -/
theorem importWorkspace_references {τ : Type} {v w : World (Importing τ)}
    (start : v.client.projects = .empty) (imports : Imports v w) :
    w.client.projects.Layered ∧
    (∀ u, Imports w u → w.client.projects.entries <+: u.client.projects.entries) ∧
    ∀ (s : ImportSetting) (monitor : Monitor (Importing τ)) (root : PackageNode)
      (packages : List PackageNode) (t u : World (Importing τ)) (r : Project.Request),
      (∀ name, s.accepts name = true) → root.isWorkspaceRoot = true → monitor.Adds →
      Import.Requests s monitor root packages t r u →
      ∀ reference ∈ r.references, u.client.projects.contains reference = true := by
  refine ⟨?_, fun u later => later.grows.1, ?_⟩
  · apply imports.grows.2
    rw [start]
    exact .empty
  · intro s monitor root packages t u r accepts atRoot adds requests
    exact Import.requests_recorded accepts adds atRoot requests

/-- Two packages, the first of which depends on the second. -/
def ImportSetting.dependent : ImportSetting where
  files := (sample ["a/x", "b/y"]).files
  conventions := (sample ["a/x", "b/y"]).conventions
  accepts _ := true
  tool _ target := ⟨[], .ok (if target = "//a/x:*" then
    Records.ofInfos [⟨"//a/x:lib", [], ["//b/y:lib"], [], "", ""⟩] else .empty)⟩

/-- What an import of these packages leaves. -/
def sampleAfter (w : World (Importing Unit)) : World (Importing Unit) :=
  stateAfter (importWorkspace .dependent .silent (.sample ["a/x", "b/y"])
    (["a/x", "b/y"].map PackageNode.ofPath) w)

def sampleStart : World (Importing Unit) :=
  ⟨.empty, [], ⟨.empty, false, ()⟩⟩

theorem sampleAfter_imports (w : World (Importing Unit)) : Imports w (sampleAfter w) :=
  .imported _ _ (fun _ => rfl) (by decide +kernel) (fun _ _ => .beside rfl)
    (fun _ _ => .beside rfl) fun _ => .beside rfl

def sampleHalf : Action (Importing Unit) (List (Bool × List String)) := do
  let x ← Import.prepare .dependent .silent (.sample ["a/x", "b/y"])
    (["a/x", "b/y"].map PackageNode.ofPath)
  let _ ← Import.importPackages .dependent .silent x.2.1 (x.2.2.take 2)
  pure (x.2.2.map fun n => (n.isWorkspaceRoot, (x.2.1.request n).references))

theorem sampleHalf_requests {w : World (Importing Unit)}
    (seen : answer? (sampleHalf w) = some [(true, []), (false, []), (false, ["y"])]) :
    ∃ r t, Import.Requests .dependent .silent (.sample ["a/x", "b/y"])
      (["a/x", "b/y"].map PackageNode.ofPath) w r t ∧ r.references = ["y"] := by
  cases ran : sampleHalf w with
  | error f t =>
    rw [ran] at seen
    cases seen
  | ok answer t =>
    rw [ran] at seen
    simp only [sampleHalf, Action.bind_eq_ok] at ran
    obtain ⟨⟨rootProject, plan, ordered⟩, v, prepared, projects, u, went, ended⟩ := ran
    cases ended
    have shape := Option.some.inj seen
    obtain ⟨a, b, c, rfl⟩ := List.length_eq_three.1
      (by simpa using congrArg List.length shape : ordered.length = 3)
    simp only [List.map_cons, List.map_nil, List.cons.injEq, Prod.mk.injEq, and_true] at shape
    have split : Import.prepare _ _ _ _ w = .ok (rootProject, plan, [a, b] ++ c :: []) v := prepared
    exact ⟨plan.request c, _, .package split shape.2.2.1 went rfl rfl, shape.2.2.2⟩

/-- The packages are imported twice; the project of the first one refers to that of the second. -/
theorem importWorkspace_references_sample :
    let w := sampleAfter sampleStart
    w.client.projects.Layered ∧ w.client.projects.keys = ["Bazel Workspace", "y", "x"] ∧
      (w.client.projects.get? "x").map (·.references) = some ["y"] ∧
      w.client.projects.entries <+: (sampleAfter w).client.projects.entries ∧
      ∃ r t, Import.Requests .dependent .silent (.sample ["a/x", "b/y"])
        (["a/x", "b/y"].map PackageNode.ofPath) w r t ∧ r.references = ["y"] ∧
        t.client.projects.contains "y" = true := by
  have law := importWorkspace_references rfl (sampleAfter_imports sampleStart)
  obtain ⟨r, t, requests, refers⟩ :=
    sampleHalf_requests (w := sampleAfter sampleStart) (by decide +kernel)
  refine ⟨law.1, by decide +kernel, by decide +kernel, law.2.1 _ (sampleAfter_imports _), r, t,
    requests, refers, ?_⟩
  apply law.2.2 .dependent .silent _ _ _ t r (fun _ => rfl) (by decide +kernel)
    Monitor.silent_sparesProjects.adds requests
  rw [refers]
  exact List.mem_cons_self

end WorkspaceImport
