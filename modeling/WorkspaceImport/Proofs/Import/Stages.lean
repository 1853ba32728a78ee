import WorkspaceImport.Proofs.Import.Run
/-!
An import in two stages: all that comes before the loop over the packages, and the loop. What every
part leaves as it was, the whole leaves as it was, however it ends. The registry, which some parts
change, is only ever added to.
-/
namespace WorkspaceImport

namespace Import

variable {τ : Type}

/-- An import up to the loop over the packages: the project of the workspace, what the loop is given,
and the order of the packages. -/
def prepare (s : ImportSetting) (monitor : Monitor (Importing τ)) (root : PackageNode)
    (packages : List PackageNode) :
    Action (Importing τ) (Project × Plan × List PackageNode) := do
  let rootName := Project.workspaceName root.workspaceRoot
  tell [.importStarted rootName packages.length]
  match ← createProject s (rootRequest root) with
  | none => throw .rootRefused
  | some rootProject =>
    monitor.subTask "Getting the Aspect Information for targets"
    let layouts ← ofExcept (layouts s packages)
    let targets := layouts.values.flatMap (·.targets)
    let infos ← Cache.resolve s.tool monitor (onBehalfOf rootName) targets
    let ordered ← ofExcept (ImportOrder.order root packages infos.values)
    tell [.ordered (ordered.map (·.name))]
    monitor.subTask "Importing bazel packages"
    pure (rootProject, planFor packages layouts infos, ordered)

/-- The loop, and the projects that the import answers. -/
def complete (s : ImportSetting) (monitor : Monitor (Importing τ)) (root : PackageNode)
    (prepared : Project × Plan × List PackageNode) : Action (Importing τ) (List Project) := do
  let projects ← importPackages s monitor prepared.2.1 prepared.2.2
  tell [.importFinished (Project.workspaceName root.workspaceRoot) (projects.length + 1)]
  pure (prepared.1 :: projects)

theorem run_eq (s : ImportSetting) (monitor : Monitor (Importing τ)) (root : PackageNode)
    (packages : List PackageNode) :
    run s monitor root packages = prepare s monitor root packages >>= complete s monitor root := by
  unfold run prepare complete
  simp only [bind_assoc]
  refine bind_congr fun _ => bind_congr fun answer => ?_
  cases answer with
  | none => rfl
  | some rootProject => simp only [bind_assoc, pure_bind, planFor]

theorem stateAfter_whileInProgress {α : Type} (a : Action (Importing τ) α)
    (w : World (Importing τ)) :
    stateAfter (whileInProgress a w) =
      setInProgress false (stateAfter (a (setInProgress true w))) := by
  unfold whileInProgress
  cases a (setInProgress true w) <;> rfl

def makeProject (s : ImportSetting) (monitor : Monitor (Importing τ)) (plan : Plan)
    (n : PackageNode) : Action (Importing τ) (Option Project) := do
  monitor.subTask ("Importing " ++ n.name)
  let project ← createProject s (plan.request n)
  if project.isNone then tell [.packageSkipped n.name]
  monitor.worked 1
  pure project

theorem importPackage_eq (s : ImportSetting) (monitor : Monitor (Importing τ)) (plan : Plan)
    (n : PackageNode) : importPackage s monitor plan n = (monitor.isCanceled >>= fun canceled =>
      if canceled then throw (.importCanceled n.name) else makeProject s monitor plan n) := by
  unfold importPackage makeProject
  refine bind_congr fun canceled => ?_
  cases canceled <;> rfl

section Keeping

variable {s : ImportSetting} {monitor : Monitor (Importing τ)} {plan : Plan} {root : PackageNode}
  {J : World (Importing τ) → Prop}

theorem ofExcept_keep {α : Type} (r : Except Failure α) : Action.Keeps J (ofExcept r) := by
  intro w start
  cases r <;> exact start

theorem tell_keep (effect : ∀ v v', Effect s.tool v v' → J v → J v') (notes : List Note) :
    Action.Keeps J (tell notes) := fun _ start => keep_tell effect notes start

theorem resolve_keep (effect : ∀ v v', Effect s.tool v v' → J v → J v')
    (watched : monitor.Keeps J) (origin : Origin) (targets : List String) :
    Action.Keeps J (Cache.resolve s.tool monitor origin targets) :=
  .bind (resolveWithReport_keep effect watched targets) fun _ _ start => start

theorem prepare_keep (effect : ∀ v v', Effect s.tool v v' → J v → J v')
    (watched : monitor.Keeps J) (create : Action.Keeps J (createProject s (rootRequest root)))
    (packages : List PackageNode) : Action.Keeps J (prepare s monitor root packages) := by
  refine .bind (tell_keep effect _) fun _ => .bind create fun answer => ?_
  cases answer with
  | none => exact fun _ start => start
  | some rootProject =>
    exact .bind (watched.subTask _) fun _ => .bind (ofExcept_keep _) fun _ =>
      .bind (resolve_keep effect watched _ _) fun _ => .bind (ofExcept_keep _) fun _ =>
      .bind (tell_keep effect _) fun _ => .bind (watched.subTask _) fun _ _ start => start

theorem makeProject_keep (effect : ∀ v v', Effect s.tool v v' → J v → J v')
    (watched : monitor.Keeps J) {n : PackageNode}
    (create : Action.Keeps J (createProject s (plan.request n))) :
    Action.Keeps J (makeProject s monitor plan n) := by
  refine .bind (watched.subTask _) fun _ => .bind create fun project => ?_
  have worked : Action.Keeps J (monitor.worked 1 >>= fun _ => pure project) :=
    .bind (watched.worked 1) fun _ _ start => start
  cases project with
  | none => exact .bind (tell_keep effect _) fun _ => worked
  | some project => exact worked

theorem importPackage_keep (effect : ∀ v v', Effect s.tool v v' → J v → J v')
    (watched : monitor.Keeps J) {n : PackageNode}
    (create : Action.Keeps J (createProject s (plan.request n))) :
    Action.Keeps J (importPackage s monitor plan n) := by
  rw [importPackage_eq]
  refine .bind watched.isCanceled fun canceled => ?_
  cases canceled with
  | true => exact fun _ start => start
  | false => exact makeProject_keep effect watched create

theorem importPackages_keep (effect : ∀ v v', Effect s.tool v v' → J v → J v')
    (watched : monitor.Keeps J) (create : ∀ r, Action.Keeps J (createProject s r))
    (nodes : List PackageNode) : Action.Keeps J (importPackages s monitor plan nodes) := by
  induction nodes with
  | nil => exact fun _ start => start
  | cons n rest ih =>
    unfold importPackages
    split
    next => exact ih
    next =>
      exact .bind (importPackage_keep effect watched (create _)) fun _ =>
        .bind ih fun _ _ start => start

theorem complete_keep (effect : ∀ v v', Effect s.tool v v' → J v → J v')
    (watched : monitor.Keeps J) (create : ∀ r, Action.Keeps J (createProject s r))
    (prepared : Project × Plan × List PackageNode) :
    Action.Keeps J (complete s monitor root prepared) :=
  .bind (importPackages_keep effect watched create _) fun _ =>
    .bind (tell_keep effect _) fun _ _ start => start

theorem run_keep (effect : ∀ v v', Effect s.tool v v' → J v → J v')
    (watched : monitor.Keeps J) (create : ∀ r, Action.Keeps J (createProject s r))
    (packages : List PackageNode) : Action.Keeps J (run s monitor root packages) := by
  rw [run_eq]
  exact .bind (prepare_keep effect watched (create _) packages) fun prepared =>
    complete_keep effect watched create prepared

end Keeping

end Import

/-- The projects that are recorded, in the order in which they were made. -/
def World.recorded {τ : Type} (w : World (Importing τ)) : List (String × Project) :=
  w.client.projects.entries

/-- An action only adds to what is recorded. -/
def Action.Adds {τ α : Type} (a : Action (Importing τ) α) : Prop :=
  ∀ earlier, a.Keeps fun w => earlier <+: w.recorded

def Monitor.Adds {τ : Type} (monitor : Monitor (Importing τ)) : Prop :=
  ∀ earlier, monitor.Keeps fun w => earlier <+: w.recorded

section Adding

variable {τ : Type} {s : ImportSetting} {monitor : Monitor (Importing τ)} {plan : Plan}
  {root : PackageNode}

theorem Action.Adds.grows {α : Type} {a : Action (Importing τ) α} (adds : a.Adds)
    (w : World (Importing τ)) : w.recorded <+: (stateAfter (a w)).recorded :=
  adds w.recorded w (List.prefix_refl _)

theorem Action.Adds.bind {α β : Type} {a : Action (Importing τ) α}
    {next : α → Action (Importing τ) β} (first : a.Adds) (second : ∀ x, (next x).Adds) :
    (a >>= next).Adds := fun earlier =>
  .bind (first earlier) fun x => second x earlier

theorem Monitor.SparesProjects.keeps (spares : monitor.SparesProjects) (P : Registry → Prop) :
    monitor.Keeps fun w => P w.client.projects := by
  have whole {α : Type} {a : Action (Importing τ) α}
      (same : ∀ projects, a.Keeps fun w => w.client.projects = projects) :
      a.Keeps fun w => P w.client.projects := by
    intro w start
    have left : (stateAfter (a w)).client.projects = w.client.projects := same _ w rfl
    rw [left]
    exact start
  exact ⟨fun text => whole fun projects => (spares projects).subTask text,
    fun units => whole fun projects => (spares projects).worked units,
    whole fun projects => (spares projects).isCanceled⟩

theorem Monitor.SparesProjects.adds (spares : monitor.SparesProjects) : monitor.Adds :=
  fun earlier => spares.keeps fun projects => earlier <+: projects.entries

theorem Effect.keeps (P : Importing τ → Prop) {tool : Tool} (v v' : World (Importing τ))
    (effect : Effect tool v v') (start : P v.client) : P v'.client := by
  rw [effect.client_eq]
  exact start

namespace Import

theorem createProject_accepted {r : Project.Request} (accepted : s.accepts r.name = true)
    (w : World (Importing τ)) : createProject s r w =
      match w.client.projects.create r with
      | ⟨notes, .error f⟩ => .error f (w.tell notes)
      | ⟨notes, .ok (project, projects)⟩ =>
        let v := w.tell notes
        .ok (some project) { v with client := { v.client with projects := projects } } := by
  unfold createProject
  rw [if_pos accepted]
  rw [Action.get_bind]
  cases w.client.projects.create r with
  | mk notes outcome => cases outcome <;> rfl

theorem createProject_keep {J : World (Importing τ) → Prop}
    (effect : ∀ v v', Effect s.tool v v' → J v → J v')
    (recorded : ∀ (v : World (Importing τ)) projects,
      J v → J { v with client := { v.client with projects := projects } })
    (r : Project.Request) : Action.Keeps J (createProject s r) := by
  intro w start
  by_cases accepted : s.accepts r.name = true
  · rw [createProject_accepted accepted]
    split
    next => exact keep_tell effect _ start
    next => exact recorded _ _ (keep_tell effect _ start)
  · rw [createProject, if_neg accepted]
    exact start

theorem createProject_recorded (r : Project.Request) (w : World (Importing τ)) :
    (stateAfter (createProject s r w)).recorded = w.recorded ∨
      w.client.projects.get? r.name = none ∧
      (stateAfter (createProject s r w)).recorded =
        w.recorded ++ [(r.name, Project.ofRequest r)] := by
  by_cases accepted : s.accepts r.name = true
  · rw [createProject_accepted accepted]
    split
    next notes f _ =>
      rw [stateAfter, World.recorded, World.tell_client]
      exact .inl rfl
    next notes project projects made =>
      have served : (w.client.projects.create r).outcome = .ok (project, projects) := by rw [made]
      rcases Registry.create_ok served with ⟨_, rfl⟩ | ⟨absent, rfl, rfl⟩
      · exact .inl rfl
      · exact .inr ⟨absent, OrderedMap.entries_insert absent _⟩
  · rw [createProject, if_neg accepted]
    exact .inl rfl

theorem createProject_adds (r : Project.Request) :
    (createProject s r : Action (Importing τ) (Option Project)).Adds := by
  intro earlier w start
  rcases createProject_recorded (s := s) r w with same | ⟨_, more⟩
  · rw [same]
    exact start
  · rw [more]
    exact start.trans (List.prefix_append _ _)

theorem makeProject_adds (adds : monitor.Adds) (n : PackageNode) :
    (makeProject s monitor plan n).Adds := fun earlier =>
  makeProject_keep (Effect.keeps fun client => earlier <+: client.projects.entries) (adds earlier)
    (createProject_adds _ earlier)

theorem importPackages_adds (adds : monitor.Adds) (nodes : List PackageNode) :
    (importPackages s monitor plan nodes).Adds := fun earlier =>
  importPackages_keep (Effect.keeps fun client => earlier <+: client.projects.entries)
    (adds earlier) (fun r => createProject_adds r earlier) nodes

theorem run_adds (adds : monitor.Adds) (packages : List PackageNode) :
    (run s monitor root packages).Adds := fun earlier =>
  run_keep (Effect.keeps fun client => earlier <+: client.projects.entries)
    (adds earlier) (fun r => createProject_adds r earlier) packages

end Import

end Adding

end WorkspaceImport
