import WorkspaceImport.Import
import WorkspaceImport.Proofs.Cache.Usage
import WorkspaceImport.Proofs.ImportOrder.Order
import WorkspaceImport.Proofs.Registry
/-!
An import that returns. It was asked for the project of the workspace, and then for one project for
every package of the order; nothing else touches the registry, if whoever watches leaves it alone.
-/
namespace WorkspaceImport

theorem Action.bind_eq_ok {σ α β : Type} {a : Action σ α} {next : α → Action σ β} {w w' : World σ}
    {y : β} : (a >>= next) w = .ok y w' ↔ ∃ x v, a w = .ok x v ∧ next x v = .ok y w' := by
  change EStateM.bind a next w = _ ↔ _
  unfold EStateM.bind
  cases run : a w with
  | ok x v =>
    constructor
    · exact fun rest => ⟨x, v, rfl, rest⟩
    · rintro ⟨x', v', same, rest⟩
      cases same
      exact rest
  | error f v =>
    constructor
    · exact nofun
    · rintro ⟨x', v', same, _⟩
      cases same

theorem Action.bind_eq_error {σ α β : Type} {a : Action σ α} {next : α → Action σ β}
    {w w' : World σ} {f : Failure} : (a >>= next) w = .error f w' ↔
      a w = .error f w' ∨ ∃ x v, a w = .ok x v ∧ next x v = .error f w' := by
  change EStateM.bind a next w = _ ↔ _
  unfold EStateM.bind
  cases run : a w with
  | ok x v =>
    constructor
    · exact fun rest => .inr ⟨x, v, rfl, rest⟩
    · rintro (stopped | ⟨x', v', same, rest⟩)
      · cases stopped
      · cases same
        exact rest
  | error g v =>
    constructor
    · intro stopped
      cases stopped
      exact .inl rfl
    · rintro (stopped | ⟨x', v', same, _⟩)
      · cases stopped
        rfl
      · cases same

/-- Whoever watches leaves the recorded projects alone. -/
def Monitor.SparesProjects {τ : Type} (monitor : Monitor (Importing τ)) : Prop :=
  ∀ projects, monitor.Keeps fun w => w.client.projects = projects

namespace Import

variable {τ : Type} {s : ImportSetting} {monitor : Monitor (Importing τ)} {plan : Plan}
  {root : PackageNode} {selected : List PackageNode} {w w' : World (Importing τ)}

theorem createProject_ok (accepts : ∀ name, s.accepts name = true) {r : Project.Request}
    {answer : Option Project} (returned : createProject s r w = .ok answer w') :
    ∃ project, answer = some project ∧
      (w.client.projects.create r).outcome = .ok (project, w'.client.projects) := by
  simp only [createProject, accepts, if_true, Action.bind_eq_ok] at returned
  obtain ⟨_, _, got, _, v, told, rest⟩ := returned
  cases got
  cases told
  cases outcome : (w.client.projects.create r).outcome with
  | error f =>
    rw [outcome] at rest
    cases rest
  | ok made =>
    rw [outcome] at rest
    cases rest
    exact ⟨made.1, rfl, rfl⟩

theorem importPackage_ok (accepts : ∀ name, s.accepts name = true)
    (spares : monitor.SparesProjects) {n : PackageNode} {answer : Option Project}
    (returned : importPackage s monitor plan n w = .ok answer w') :
    ∃ project, answer = some project ∧
      (w.client.projects.create (plan.request n)).outcome = .ok (project, w'.client.projects) := by
  simp only [importPackage, Action.bind_eq_ok] at returned
  obtain ⟨canceled, v₁, asked, rest⟩ := returned
  have same₁ := (spares _).isCanceled.ok asked rfl
  cases canceled with
  | true => cases rest
  | false =>
    simp only [Bool.false_eq_true, if_false, Action.bind_eq_ok] at rest
    obtain ⟨_, v₂, announced, _, v₃, made, rest⟩ := rest
    have same₂ := ((spares _).subTask _).ok announced same₁
    obtain ⟨project, rfl, served⟩ := createProject_ok accepts made
    simp only [Option.isNone_some, Bool.false_eq_true, if_false, Action.bind_eq_ok] at rest
    obtain ⟨_, v₄, worked, ended⟩ := rest
    have same₃ := ((spares _).worked 1).ok worked rfl
    cases ended
    refine ⟨project, rfl, ?_⟩
    rw [← same₂, same₃]
    exact served

theorem importPackages_ok (accepts : ∀ name, s.accepts name = true)
    (spares : monitor.SparesProjects) {nodes : List PackageNode} {projects : List Project}
    (returned : importPackages s monitor plan nodes w = .ok projects w') :
    Registry.Serves w.client.projects
      ((nodes.filter fun n => !n.isWorkspaceRoot).map plan.request) projects
      w'.client.projects := by
  induction nodes generalizing w projects with
  | nil =>
    cases returned
    exact .done _
  | cons n rest ih =>
    unfold importPackages at returned
    split at returned
    next isRoot =>
      rw [List.filter_cons_of_neg (by simp [isRoot])]
      exact ih returned
    next isPackage =>
      simp only [Action.bind_eq_ok] at returned
      obtain ⟨answer, v, first, more, u, later, ended⟩ := returned
      cases ended
      obtain ⟨project, rfl, served⟩ := importPackage_ok accepts spares first
      rw [List.filter_cons_of_pos (by simpa using isPackage), List.map_cons]
      exact .next served (ih later)

def planFor (packages : List PackageNode) (layouts : OrderedMap String Layout) (infos : Records) :
    Plan where
  layouts := layouts
  graph := ImportOrder.graph packages infos.values
  names := OrderedMap.ofList (packages.map fun n => (n.name, n.lastSegment))
  infos := infos

theorem ofExcept_ok {α : Type} {r : Except Failure α} {x : α} (returned : ofExcept r w = .ok x w') :
    r = .ok x ∧ w' = w := by
  cases r with
  | ok y =>
    cases returned
    exact ⟨rfl, rfl⟩
  | error f => cases returned

theorem resolve_keeps (spares : monitor.SparesProjects) (tool : Tool) (origin : Origin)
    (targets : List String) (projects : Registry) :
    Action.Keeps (fun w => w.client.projects = projects)
      (Cache.resolve tool monitor origin targets) := by
  refine .bind (resolveWithReport_keep ?_ (spares projects) targets) fun _ _ start => start
  intro v v' effect start
  rw [effect.client_eq]
  exact start

/-- In an import that begins in a state, the records were resolved for the targets in the layouts,
after the project of the workspace was made. -/
def Resolves (s : ImportSetting) (monitor : Monitor (Importing τ)) (root : PackageNode)
    (packages : List PackageNode) (w : World (Importing τ)) (layouts : OrderedMap String Layout)
    (infos : Records) : Prop :=
  let rootName := Project.workspaceName root.workspaceRoot
  ∃ answer t u v,
    createProject s (rootRequest root) (w.tell [.importStarted rootName packages.length]) =
      .ok answer t ∧
    monitor.subTask "Getting the Aspect Information for targets" t = .ok () u ∧
    Cache.resolve s.tool monitor (onBehalfOf rootName) (layouts.values.flatMap (·.targets)) u =
      .ok infos v

/-- An import that returns has resolved the targets of all packages, has found an order of them, and
was given a project for the root and for every package in this order. -/
theorem run_ok (accepts : ∀ name, s.accepts name = true) (spares : monitor.SparesProjects)
    {packages : List PackageNode} {projects : List Project}
    (returned : run s monitor root packages w = .ok projects w') :
    ∃ layouts infos ordered, Import.layouts s packages = .ok layouts ∧
      Resolves s monitor root packages w layouts infos ∧
      ImportOrder.order root packages infos.values = .ok ordered ∧
      Registry.Serves w.client.projects
        (rootRequest root ::
          (ordered.filter fun n => !n.isWorkspaceRoot).map (planFor packages layouts infos).request)
        projects w'.client.projects := by
  simp only [run, Action.bind_eq_ok] at returned
  obtain ⟨_, v₁, told, answer, v₂, made, rest⟩ := returned
  cases told
  obtain ⟨project, rfl, served⟩ := createProject_ok accepts made
  simp only [Action.bind_eq_ok] at rest
  obtain ⟨_, v₃, announced, layouts, v₄, found, infos, v₅, resolved, ordered, v₆, sorted, _, v₇,
    logged, _, v₈, announced', more, v₉, imported, _, v₁₀, finished, ended⟩ := rest
  obtain ⟨laidOut, rfl⟩ := ofExcept_ok found
  obtain ⟨inOrder, rfl⟩ := ofExcept_ok sorted
  cases logged
  cases finished
  cases ended
  have same₃ := ((spares _).subTask _).ok announced rfl
  have same₅ := (resolve_keeps spares _ _ _ _).ok resolved same₃
  have same₈ := ((spares _).subTask _).ok announced' same₅
  refine ⟨layouts, infos, ordered, laidOut, ⟨_, _, _, _, made, announced, resolved⟩, inOrder, ?_⟩
  have packages := importPackages_ok accepts spares imported
  rw [same₈] at packages
  exact .next served packages

end Import

theorem importWorkspace_resolves {τ : Type} {s : ImportSetting} {monitor : Monitor (Importing τ)}
    {root : PackageNode} {selected : List PackageNode} {w w' : World (Importing τ)}
    {projects : List Project} (accepts : ∀ name, s.accepts name = true)
    (spares : monitor.SparesProjects)
    (returned : importWorkspace s monitor root selected w = .ok projects w') :
    let packages := selected.filter fun n => !n.isWorkspaceRoot
    ∃ layouts infos ordered, Import.layouts s packages = .ok layouts ∧
      Import.Resolves s monitor root packages (Import.setInProgress true w) layouts infos ∧
      ImportOrder.order root packages infos.values = .ok ordered ∧
      Registry.Serves w.client.projects
        (Import.rootRequest root :: (ordered.filter fun n => !n.isWorkspaceRoot).map
          (Import.planFor packages layouts infos).request)
        projects w'.client.projects := by
  unfold importWorkspace Import.whileInProgress at returned
  split at returned
  next x v run =>
    cases returned
    -- the mark of progress is no part of the registry
    have served := Import.run_ok accepts spares run
    exact served
  next => cases returned

theorem importWorkspace_ok {τ : Type} {s : ImportSetting} {monitor : Monitor (Importing τ)}
    {root : PackageNode} {selected : List PackageNode} {w w' : World (Importing τ)}
    {projects : List Project} (accepts : ∀ name, s.accepts name = true)
    (spares : monitor.SparesProjects)
    (returned : importWorkspace s monitor root selected w = .ok projects w') :
    let packages := selected.filter fun n => !n.isWorkspaceRoot
    ∃ layouts infos ordered, Import.layouts s packages = .ok layouts ∧
      ImportOrder.order root packages infos.values = .ok ordered ∧
      Registry.Serves w.client.projects
        (Import.rootRequest root :: (ordered.filter fun n => !n.isWorkspaceRoot).map
          (Import.planFor packages layouts infos).request)
        projects w'.client.projects := by
  obtain ⟨layouts, infos, ordered, laidOut, _, sorted, serves⟩ :=
    importWorkspace_resolves accepts spares returned
  exact ⟨layouts, infos, ordered, laidOut, sorted, serves⟩

end WorkspaceImport
