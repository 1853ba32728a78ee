import WorkspaceImport.Proofs.Import.Names
import WorkspaceImport.Proofs.Import.Stages
/-!
Imports that are broken off. Of two imports that are the same but for how soon they are cancelled, the
one that is cancelled sooner records the first of the projects that the other one records. An import
that fails before the loop over the packages records at most the project of the workspace. An import
is marked as in progress at every event, and never afterwards.
-/
namespace WorkspaceImport

/-- Two actions agree, or the first one fails when it has recorded no more than the second one does in
the end. The second one only adds to what is recorded. -/
structure Action.Sooner {τ α : Type} (first second : Action (Importing τ) α) : Prop where
  adds : second.Adds
  agrees : ∀ w, first w = second w ∨
    ∃ f v, first w = .error f v ∧ v.recorded <+: (stateAfter (second w)).recorded

/-- One who watches cancels no later than another one, and otherwise does the same. -/
structure Monitor.Sooner {τ : Type} (first second : Monitor (Importing τ)) : Prop where
  adds : second.Adds
  subTask : first.subTask = second.subTask
  worked : first.worked = second.worked
  isCanceled : ∀ w, first.isCanceled w = second.isCanceled w ∨
    ∃ v, first.isCanceled w = .ok true v ∧ second.isCanceled w = .ok false v

namespace Action

variable {τ α β : Type}

theorem Adds.sooner {a : Action (Importing τ) α} (adds : a.Adds) : a.Sooner a :=
  ⟨adds, fun _ => .inl rfl⟩

theorem Sooner.bind {a a' : Action (Importing τ) α} {next next' : α → Action (Importing τ) β}
    (first : a.Sooner a') (second : ∀ x, (next x).Sooner (next' x)) :
    (a >>= next).Sooner (a' >>= next') where
  adds := first.adds.bind fun x => (second x).adds
  agrees w := by
    change EStateM.bind a next w = EStateM.bind a' next' w ∨
      ∃ f v, EStateM.bind a next w = .error f v ∧
        v.recorded <+: (stateAfter (EStateM.bind a' next' w)).recorded
    simp only [EStateM.bind]
    rcases first.agrees w with same | ⟨f, v, stopped, before⟩
    · rw [same]
      cases a' w with
      | ok x u => exact (second x).agrees u
      | error f u => exact .inl rfl
    · rw [stopped]
      refine .inr ⟨f, v, rfl, ?_⟩
      cases ran : a' w with
      | ok x u =>
        rw [ran] at before
        exact before.trans ((second x).adds.grows u)
      | error f u =>
        rw [ran] at before
        exact before

theorem Sooner.added {a a' : Action (Importing τ) α} (sooner : a.Sooner a') (adds : a.Adds)
    (w : World (Importing τ)) : ∃ added more,
      (stateAfter (a w)).recorded = w.recorded ++ added ∧
      (stateAfter (a' w)).recorded = w.recorded ++ added ++ more := by
  obtain ⟨added, first⟩ := adds.grows w
  have both : (stateAfter (a w)).recorded <+: (stateAfter (a' w)).recorded := by
    rcases sooner.agrees w with same | ⟨f, v, stopped, before⟩
    · exact same ▸ List.prefix_refl _
    · rw [stopped]
      exact before
  obtain ⟨more, second⟩ := both
  exact ⟨added, more, first.symm, by rw [first, second]⟩

end Action

namespace Resolve

section Worked

variable {σ : Type} {tool : Tool} {first second : Monitor σ} {origin : Origin}
  (same : first.worked = second.worked)

include same

theorem reportWork_congr : reportWork first = reportWork second := by
  unfold reportWork
  rw [same]

theorem literal_worked (target : String) :
    literal tool first origin target = literal tool second origin target := by
  unfold literal
  rw [reportWork_congr same]

theorem wildcard_worked (depth : Nat) (visiting : List String) (target : String) :
    wildcard tool first origin depth visiting target =
      wildcard tool second origin depth visiting target := by
  induction depth generalizing visiting target with
  | zero => rfl
  | succ depth ih =>
    unfold wildcard
    simp only [ih, literal_worked same, reportWork_congr same]

end Worked

section Requests

variable {τ : Type} {tool : Tool} {first second : Monitor (Importing τ)} {origin : Origin}
  {earlier : List (String × Project)}

theorem requests_adds (adds : second.Adds) (tool : Tool) (origin : Origin) (targets : List String)
    (c : Call (Importing τ)) (start : earlier <+: c.world.recorded) :
    earlier <+: (stateAfter (requests tool second origin targets c)).world.recorded :=
  Moves.keep_world (Effect.keeps fun client => earlier <+: client.projects.entries) (adds earlier)
    (requests_turns tool second origin targets c).moves start

theorem requests_cons (monitor : Monitor (Importing τ)) (target : String) (rest : List String)
    (c : Call (Importing τ)) : requests tool monitor origin (target :: rest) c =
      match request tool monitor origin target c with
      | .ok _ d => requests tool monitor origin rest d
      | .error f d => .error f d := by
  rw [requests, Step.forM_cons_apply]
  cases request tool monitor origin target c <;> rfl

theorem request_adds (adds : second.Adds) {target : String} {c : Call (Importing τ)}
    {v : World (Importing τ)} (goesOn : second.isCanceled c.world = .ok false v) :
    v.recorded <+: (stateAfter (request tool second origin target c)).world.recorded := by
  have kept {d : Call (Importing τ)} (moves : Moves tool second origin { c with world := v } d) :
      v.recorded <+: d.world.recorded :=
    Moves.keep_world (Effect.keeps fun client => v.recorded <+: client.projects.entries)
      (adds v.recorded) moves (List.prefix_refl _)
  rw [request_eq, goesOn]
  cases read : Label.parse target with
  | error fault => exact List.prefix_refl _
  | ok label =>
    simp only
    split
    next wild =>
      exact kept (wildcard_turns tool second origin _ _ (Label.parse_canonical read)
        (Label.isWildcard_canonical wild) _).moves
    next => exact kept (literal_turns tool second origin _ _).moves

theorem requests_sooner (sooner : first.Sooner second) (tool : Tool) (origin : Origin)
    (targets : List String)
    (c : Call (Importing τ)) :
    requests tool first origin targets c = requests tool second origin targets c ∨
      ∃ f d, requests tool first origin targets c = .error f d ∧ d.world.recorded <+:
        (stateAfter (requests tool second origin targets c)).world.recorded := by
  induction targets generalizing c with
  | nil => exact .inl rfl
  | cons target rest ih =>
    rcases sooner.isCanceled c.world with same | ⟨v, stopped, goesOn⟩
    · have alike : request tool first origin target c = request tool second origin target c := by
        rw [request_eq, request_eq, same]
        simp only [wildcard_worked sooner.worked, literal_worked sooner.worked]
      rw [requests_cons, requests_cons, alike]
      cases request tool second origin target c with
      | ok _ d => exact ih d
      | error f d => exact .inl rfl
    · have stop : request tool first origin target c =
          .error (.resolveCanceled target) { c with world := v } := by
        rw [request_eq, stopped]
      have before : v.recorded <+:
          (stateAfter (request tool second origin target c)).world.recorded :=
        request_adds sooner.adds goesOn
      refine .inr ⟨_, _, by rw [requests_cons, stop], ?_⟩
      rw [requests_cons]
      cases ran : request tool second origin target c with
      | ok _ d =>
        rw [ran] at before
        exact requests_adds sooner.adds tool origin rest d before
      | error f d =>
        rw [ran] at before
        exact before

end Requests

end Resolve

section Stages

variable {τ : Type} {α : Type} {s : ImportSetting} {first second : Monitor (Importing τ)}
  {plan : Plan} {root : PackageNode}

theorem Action.Adds.pure (x : α) : (Pure.pure x : Action (Importing τ) α).Adds :=
  fun _ _ start => start

theorem Action.Adds.tell (notes : List Note) :
    (Import.tell notes : Action (Importing τ) Unit).Adds := by
  intro earlier w start
  change earlier <+: (w.tell notes).client.projects.entries
  rw [World.tell_client]
  exact start

theorem Action.Adds.ofExcept (r : Except Failure α) :
    (Import.ofExcept r : Action (Importing τ) α).Adds :=
  fun _ => Import.ofExcept_keep r

namespace Monitor

theorem Adds.subTask (adds : second.Adds) (text : String) : (second.subTask text).Adds :=
  fun earlier => (adds earlier).subTask text

theorem Adds.worked (adds : second.Adds) (units : Nat) : (second.worked units).Adds :=
  fun earlier => (adds earlier).worked units

theorem Sooner.asks (sooner : first.Sooner second) {next : Bool → Action (Importing τ) α}
    (adds : ∀ canceled, (next canceled).Adds) (stops : ∀ w, ∃ f, next true w = .error f w) :
    (first.isCanceled >>= next).Sooner (second.isCanceled >>= next) where
  adds := Action.Adds.bind (fun earlier => (sooner.adds earlier).isCanceled) adds
  agrees w := by
    change EStateM.bind first.isCanceled next w = EStateM.bind second.isCanceled next w ∨
      ∃ f v, EStateM.bind first.isCanceled next w = .error f v ∧
        v.recorded <+: (stateAfter (EStateM.bind second.isCanceled next w)).recorded
    simp only [EStateM.bind]
    rcases sooner.isCanceled w with same | ⟨v, stopped, goesOn⟩
    · rw [same]
      exact .inl rfl
    · rw [stopped, goesOn]
      obtain ⟨f, stop⟩ := stops v
      exact .inr ⟨f, v, stop, (adds false).grows v⟩

end Monitor

namespace Resolve

theorem collect_sooner (sooner : first.Sooner second) (tool : Tool) (origin : Origin)
    (targets : List String) :
    (collect tool first origin targets).Sooner (collect tool second origin targets) where
  adds earlier w start := by
    have after := requests_adds sooner.adds tool origin targets ⟨.empty, w⟩ start
    unfold collect
    cases ran : requests tool second origin targets ⟨.empty, w⟩ <;>
      (rw [ran] at after; exact after)
  agrees w := by
    unfold collect
    rcases requests_sooner sooner tool origin targets ⟨.empty, w⟩ with same | ⟨f, d, stopped, before⟩
    · rw [same]
      exact .inl rfl
    · rw [stopped]
      refine .inr ⟨_, _, rfl, ?_⟩
      cases ran : requests tool second origin targets ⟨.empty, w⟩ <;>
        (rw [ran] at before; exact before)

end Resolve

theorem Cache.resolve_sooner (sooner : first.Sooner second) (tool : Tool) (origin : Origin)
    (targets : List String) :
    (Cache.resolve tool first origin targets).Sooner (Cache.resolve tool second origin targets) := by
  unfold Cache.resolve Cache.resolveWithReport
  rw [sooner.subTask, sooner.worked]
  refine .bind (.bind (sooner.adds.subTask _).sooner fun _ => .bind
    (Resolve.collect_sooner sooner tool origin targets) fun report => .bind
    (sooner.adds.worked _).sooner fun _ => .bind (Action.Adds.tell _).sooner fun _ => ?_) fun _ => ?_
  · exact (Action.Adds.pure _).sooner
  · exact (Action.Adds.pure _).sooner

namespace Import

theorem importPackage_sooner (sooner : first.Sooner second) (n : PackageNode) :
    (importPackage s first plan n).Sooner (importPackage s second plan n) := by
  have same : makeProject s first plan n = makeProject s second plan n := by
    unfold makeProject
    rw [sooner.subTask, sooner.worked]
  rw [importPackage_eq, importPackage_eq, same]
  refine sooner.asks ?_ fun w => ⟨_, rfl⟩
  intro canceled
  cases canceled with
  | true => exact fun _ _ start => start
  | false => exact makeProject_adds sooner.adds n

theorem importPackages_sooner (sooner : first.Sooner second) (nodes : List PackageNode) :
    (importPackages s first plan nodes).Sooner (importPackages s second plan nodes) := by
  induction nodes with
  | nil => exact (Action.Adds.pure _).sooner
  | cons n rest ih =>
    unfold importPackages
    split
    next => exact ih
    next =>
      exact (importPackage_sooner sooner n).bind fun _ =>
        ih.bind fun _ => (Action.Adds.pure _).sooner

theorem prepare_sooner (sooner : first.Sooner second) (packages : List PackageNode) :
    (prepare s first root packages).Sooner (prepare s second root packages) := by
  unfold prepare
  rw [sooner.subTask]
  refine .bind (Action.Adds.tell _).sooner fun _ => .bind (createProject_adds _).sooner
    fun answer => ?_
  cases answer with
  | none => exact Action.Adds.sooner fun _ _ start => start
  | some rootProject =>
    exact .bind (sooner.adds.subTask _).sooner fun _ => .bind (Action.Adds.ofExcept _).sooner
      fun _ => .bind (Cache.resolve_sooner sooner _ _ _) fun _ =>
      .bind (Action.Adds.ofExcept _).sooner fun _ => .bind (Action.Adds.tell _).sooner fun _ =>
      .bind (sooner.adds.subTask _).sooner fun _ => (Action.Adds.pure _).sooner

theorem run_sooner (sooner : first.Sooner second) (packages : List PackageNode) :
    (run s first root packages).Sooner (run s second root packages) := by
  rw [run_eq, run_eq]
  exact .bind (prepare_sooner sooner packages) fun prepared =>
    .bind (importPackages_sooner sooner _) fun _ =>
    .bind (Action.Adds.tell _).sooner fun _ => (Action.Adds.pure _).sooner

end Import

end Stages

section Limited

variable {τ : Type}

def World.keep (change : τ → τ) (w : World (Importing τ)) : World (Importing τ) :=
  { w with client := { w.client with client := change w.client.client } }

/-- One who goes on at the first questions whether to cancel, up to a number of them, and cancels at
the later ones. How many there were is the first part of what it keeps for itself. -/
def Monitor.limited (number : Nat) (monitor : Monitor (Importing (Nat × τ))) :
    Monitor (Importing (Nat × τ)) where
  subTask := monitor.subTask
  worked := monitor.worked
  isCanceled := fun w =>
    .ok (decide (number ≤ w.client.client.1)) (w.keep fun kept => (kept.1 + 1, kept.2))

variable {monitor : Monitor (Importing (Nat × τ))} {number later : Nat}

theorem Monitor.Adds.limited (adds : monitor.Adds) : (monitor.limited number).Adds := fun earlier =>
  ⟨(adds earlier).subTask, (adds earlier).worked, fun _ start => start⟩

theorem Monitor.limited_isCanceled (w : World (Importing (Nat × τ))) :
    (monitor.limited number).isCanceled w =
      .ok (decide (number ≤ w.client.client.1)) (w.keep fun kept => (kept.1 + 1, kept.2)) :=
  rfl

theorem Monitor.Adds.limited_sooner (adds : monitor.Adds) (le : number ≤ later) :
    (monitor.limited number).Sooner (monitor.limited later) where
  adds := adds.limited
  subTask := rfl
  worked := rfl
  isCanceled w := by
    rw [limited_isCanceled, limited_isCanceled]
    by_cases passed : later ≤ w.client.client.1
    · rw [decide_eq_true passed, decide_eq_true (le.trans passed)]
      exact .inl rfl
    · rw [decide_eq_false passed]
      by_cases reached : number ≤ w.client.client.1
      · rw [decide_eq_true reached]
        exact .inr ⟨_, rfl, rfl⟩
      · rw [decide_eq_false reached]
        exact .inl rfl

/-- Of two imports, the one that is cancelled at an earlier question records the first of the projects
that the other one records. -/
theorem Import.run_limited {s : ImportSetting} {root : PackageNode} (adds : monitor.Adds)
    (le : number ≤ later) (packages : List PackageNode) (w : World (Importing (Nat × τ))) :
    ∃ added more,
      (stateAfter (run s (monitor.limited number) root packages w)).recorded =
        w.recorded ++ added ∧
      (stateAfter (run s (monitor.limited later) root packages w)).recorded =
        w.recorded ++ added ++ more :=
  (run_sooner (adds.limited_sooner le) packages).added (run_adds adds.limited packages) w

end Limited

section Noting

variable {τ : Type}

/-- The session with one more note on whether an import is marked as in progress. The notes, newest
first, are the first part of what one who watches keeps for itself. -/
def World.note (w : World (Importing (List Bool × τ))) : World (Importing (List Bool × τ)) :=
  w.keep fun kept => (w.client.inProgress :: kept.1, kept.2)

/-- One who takes such a note at every event, and then does what another one does. -/
def Monitor.noting (monitor : Monitor (Importing (List Bool × τ))) :
    Monitor (Importing (List Bool × τ)) where
  subTask text := do
    modify World.note
    monitor.subTask text
  worked units := do
    modify World.note
    monitor.worked units
  isCanceled := do
    modify World.note
    monitor.isCanceled

/-- Whoever watches neither takes the mark of progress away nor touches the notes of it. -/
def Monitor.SparesMark (monitor : Monitor (Importing (List Bool × τ))) : Prop :=
  ∀ notes, monitor.Keeps fun w => w.client.inProgress = true ∧ w.client.client.1 = notes

/-- An import is marked as in progress, and so it was at every note after some earlier ones. -/
def World.Noted (earlier : List Bool) (w : World (Importing (List Bool × τ))) : Prop :=
  w.client.inProgress = true ∧
    ∃ seen, w.client.client.1 = seen ++ earlier ∧ ∀ mark ∈ seen, mark = true

theorem World.Noted.note {earlier : List Bool} {w : World (Importing (List Bool × τ))}
    (noted : w.Noted earlier) : w.note.Noted earlier := by
  obtain ⟨marked, seen, written, all⟩ := noted
  refine ⟨marked, true :: seen, ?_, List.forall_mem_cons.2 ⟨rfl, all⟩⟩
  change w.client.inProgress :: w.client.client.1 = _
  rw [marked, written, List.cons_append]

theorem Monitor.SparesMark.noting {monitor : Monitor (Importing (List Bool × τ))}
    (spares : monitor.SparesMark) (earlier : List Bool) :
    monitor.noting.Keeps (World.Noted earlier) := by
  have watched {α : Type} {a : Action (Importing (List Bool × τ)) α}
      (same : ∀ notes, a.Keeps fun w => w.client.inProgress = true ∧ w.client.client.1 = notes) :
      Action.Keeps (World.Noted earlier) (modify World.note >>= fun _ => a) := by
    refine .bind (fun _ noted => noted.note) fun _ => ?_
    rintro w ⟨marked, seen, written, all⟩
    obtain ⟨still, left⟩ := same _ w ⟨marked, rfl⟩
    exact ⟨still, seen, left.trans written, all⟩
  exact ⟨fun text => watched fun notes => (spares notes).subTask text,
    fun units => watched fun notes => (spares notes).worked units,
    watched fun notes => (spares notes).isCanceled⟩

theorem Import.run_noted {s : ImportSetting} {monitor : Monitor (Importing (List Bool × τ))}
    {root : PackageNode} (spares : monitor.SparesMark) (packages : List PackageNode)
    (earlier : List Bool) :
    Action.Keeps (World.Noted earlier) (run s monitor.noting root packages) := by
  have effect (v v' : World (Importing (List Bool × τ))) (effect : Effect s.tool v v') :
      v.Noted earlier → v'.Noted earlier :=
    Effect.keeps (fun client : Importing (List Bool × τ) => client.inProgress = true ∧
      ∃ seen, client.client.1 = seen ++ earlier ∧ ∀ mark ∈ seen, mark = true) v v' effect
  exact run_keep effect (spares.noting earlier)
    (createProject_keep effect fun _ _ start => start) packages

end Noting

section Before

variable {τ : Type} {s : ImportSetting} {monitor : Monitor (Importing τ)} {root : PackageNode}
  {plan : Plan} {w v : World (Importing τ)} {f : Failure}

def Registry.AtMost (earlier : List (String × Project)) (r : Project.Request)
    (projects : Registry) : Prop :=
  projects.entries = earlier ∨ projects.entries = earlier ++ [(r.name, Project.ofRequest r)]

/-- Whatever one who watches is told or asked, it returns. -/
structure Monitor.Returns (monitor : Monitor (Importing τ)) : Prop where
  subTask : ∀ text w f v, monitor.subTask text w ≠ .error f v
  worked : ∀ units w f v, monitor.worked units w ≠ .error f v
  isCanceled : ∀ w f v, monitor.isCanceled w ≠ .error f v

theorem Monitor.silent_returns : (silent : Monitor (Importing τ)).Returns where
  subTask _ _ _ _ failed := by cases failed
  worked _ _ _ _ failed := by cases failed
  isCanceled _ _ _ failed := by cases failed

theorem Monitor.Returns.limited {monitor : Monitor (Importing (Nat × τ))} (returns : monitor.Returns)
    (number : Nat) : (monitor.limited number).Returns where
  subTask := returns.subTask
  worked := returns.worked
  isCanceled w f v failed := by
    rw [limited_isCanceled] at failed
    cases failed

/-- The failures of the loop over the packages itself. -/
def Failure.isOfLoop : Failure → Bool
  | .importCanceled _ | .input (.sourcesOutside ..) => true
  | _ => false

namespace Import

theorem createProject_atMost (earlier : List (String × Project)) (r : Project.Request) :
    Action.Keeps (fun w : World (Importing τ) => w.client.projects.AtMost earlier r)
      (createProject s r) := by
  intro v start
  rcases createProject_recorded (s := s) r v with same | ⟨absent, more⟩
  · have left : (stateAfter (createProject s r v)).client.projects = v.client.projects :=
      OrderedMap.ext_entries same
    rw [left]
    exact start
  · rcases start with none | one
    · exact .inr (more.trans (by rw [World.recorded, none]))
    · have known : v.client.projects.contains r.name = true := by
        apply OrderedMap.contains_iff_mem_keys.2
        rw [OrderedMap.keys, one]
        simp
      rw [OrderedMap.contains_eq_false_iff.2 absent] at known
      cases known

theorem prepare_recorded (s : ImportSetting) (root : PackageNode)
    (spares : monitor.SparesProjects) (packages : List PackageNode) (w : World (Importing τ)) :
    (stateAfter (prepare s monitor root packages w)).client.projects.AtMost w.recorded
      (rootRequest root) :=
  prepare_keep (Effect.keeps fun client => client.projects.AtMost w.recorded (rootRequest root))
    (spares.keeps fun projects => projects.AtMost w.recorded (rootRequest root))
    (createProject_atMost w.recorded _) packages w (.inl rfl)

theorem createProject_error {r : Project.Request} (failed : createProject s r w = .error f v) :
    f.isOfLoop = true := by
  by_cases accepted : s.accepts r.name = true
  · rw [createProject_accepted accepted] at failed
    split at failed
    next refused =>
      cases failed
      obtain ⟨_, _, rfl⟩ := Registry.create_error (congrArg Reported.outcome refused)
      rfl
    next => cases failed
  · rw [createProject, if_neg accepted] at failed
    cases failed

theorem run_of_prepare_error {packages : List PackageNode}
    (failed : prepare s monitor root packages w = .error f v) :
    run s monitor root packages w = .error f v := by
  rw [run_eq]
  exact Action.bind_eq_error.2 (.inl failed)

theorem run_of_importWorkspace_error {selected : List PackageNode}
    (failed : importWorkspace s monitor root selected w = .error f v) :
    ∃ u, run s monitor root (selected.filter fun n => !n.isWorkspaceRoot)
      (setInProgress true w) = .error f u ∧ v = setInProgress false u := by
  unfold importWorkspace whileInProgress at failed
  split at failed
  next => cases failed
  next ran =>
    cases failed
    exact ⟨_, ran, rfl⟩

section Loop

variable (returns : monitor.Returns)

include returns

theorem importPackage_error {n : PackageNode}
    (failed : importPackage s monitor plan n w = .error f v) : f.isOfLoop = true := by
  rw [importPackage_eq] at failed
  rcases Action.bind_eq_error.1 failed with asked | ⟨canceled, u, _, rest⟩
  · exact absurd asked (returns.isCanceled _ _ _)
  · cases canceled with
    | true =>
      cases rest
      rfl
    | false =>
      simp only [Bool.false_eq_true, if_false, makeProject, Action.bind_eq_error] at rest
      rcases rest with told | ⟨_, _, _, refused | ⟨project, u', _, rest⟩⟩
      · exact absurd told (returns.subTask _ _ _ _)
      · exact createProject_error refused
      · cases project with
        | none =>
          rcases Action.bind_eq_error.1 rest with told | ⟨_, _, _, rest⟩
          · cases told
          · rcases Action.bind_eq_error.1 rest with told | ⟨_, _, _, rest⟩
            · exact absurd told (returns.worked _ _ _ _)
            · cases rest
        | some project =>
          rcases Action.bind_eq_error.1 rest with told | ⟨_, _, _, rest⟩
          · exact absurd told (returns.worked _ _ _ _)
          · cases rest

theorem importPackages_error {nodes : List PackageNode}
    (failed : importPackages s monitor plan nodes w = .error f v) : f.isOfLoop = true := by
  induction nodes generalizing w with
  | nil => cases failed
  | cons n rest ih =>
    unfold importPackages at failed
    split at failed
    next => exact ih failed
    next =>
      rcases Action.bind_eq_error.1 failed with stopped | ⟨_, _, _, failed⟩
      · exact importPackage_error returns stopped
      · rcases Action.bind_eq_error.1 failed with stopped | ⟨_, _, _, ended⟩
        · exact ih stopped
        · cases ended

theorem prepare_of_run_error {packages : List PackageNode} (other : f.isOfLoop = false)
    (failed : run s monitor root packages w = .error f v) :
    prepare s monitor root packages w = .error f v := by
  rw [run_eq] at failed
  rcases Action.bind_eq_error.1 failed with stopped | ⟨prepared, u, _, rest⟩
  · exact stopped
  · rcases Action.bind_eq_error.1 rest with stopped | ⟨_, _, _, ended⟩
    · rw [importPackages_error returns stopped] at other
      cases other
    · rcases Action.bind_eq_error.1 ended with told | ⟨_, _, _, ended⟩
      · cases told
      · cases ended

end Loop

end Import

end Before

/-- Imports that are broken off. However an import ends, it is not marked as in progress any more,
and at every event before it was. Of two imports that begin alike and differ only in the question at
which they are cancelled, the one that is cancelled at the earlier question records the first of the
projects that the other one records. An import that fails before the loop over the packages records
at most the project of the workspace; every failure is one before the loop that is neither the loop's
own nor that of one who watches. -/
theorem importWorkspace_aborted {τ : Type} (s : ImportSetting) (root : PackageNode)
    (selected : List PackageNode) :
    (∀ (monitor : Monitor (Importing τ)) (w : World (Importing τ)),
      (stateAfter (importWorkspace s monitor root selected w)).client.inProgress = false) ∧
    (∀ (monitor : Monitor (Importing (List Bool × τ))) (w : World (Importing (List Bool × τ))),
      monitor.SparesMark → ∃ seen,
        (stateAfter (importWorkspace s monitor.noting root selected w)).client.client.1 =
          seen ++ w.client.client.1 ∧ ∀ mark ∈ seen, mark = true) ∧
    (∀ (monitor : Monitor (Importing (Nat × τ))) (n m : Nat) (w : World (Importing (Nat × τ))),
      monitor.Adds → n ≤ m → ∃ added more,
        (stateAfter (importWorkspace s (monitor.limited n) root selected w)).recorded =
          w.recorded ++ added ∧
        (stateAfter (importWorkspace s (monitor.limited m) root selected w)).recorded =
          w.recorded ++ added ++ more) ∧
    ∀ (monitor : Monitor (Importing τ)) (w v : World (Importing τ)) (f : Failure),
      monitor.SparesProjects → importWorkspace s monitor root selected w = .error f v →
      (∃ u, Import.prepare s monitor root (selected.filter fun n => !n.isWorkspaceRoot)
          (Import.setInProgress true w) = .error f u) ∨
        monitor.Returns ∧ f.isOfLoop = false →
      v.recorded = w.recorded ∨ v.recorded = w.recorded ++
        [((Import.rootRequest root).name, Project.ofRequest (Import.rootRequest root))] := by
  refine ⟨?_, ?_, ?_, ?_⟩
  · intro monitor w
    rw [importWorkspace, Import.stateAfter_whileInProgress]
    rfl
  · intro monitor w spares
    rw [importWorkspace, Import.stateAfter_whileInProgress]
    exact (Import.run_noted spares _ w.client.client.1 (Import.setInProgress true w)
      ⟨rfl, [], rfl, nofun⟩).2
  · intro monitor n m w adds le
    rw [importWorkspace, Import.stateAfter_whileInProgress, importWorkspace,
      Import.stateAfter_whileInProgress]
    exact Import.run_limited adds le _ (Import.setInProgress true w)
  · intro monitor w v f spares failed early
    obtain ⟨u, ran, rfl⟩ := Import.run_of_importWorkspace_error failed
    -- Either way the preparation failed, which creates nothing but the project of the root.
    have before : Import.prepare s monitor root (selected.filter fun n => !n.isWorkspaceRoot)
        (Import.setInProgress true w) = .error f u := by
      rcases early with ⟨u', stopped⟩ | ⟨returns, other⟩
      · rw [Import.run_of_prepare_error stopped] at ran
        cases ran
        exact stopped
      · exact Import.prepare_of_run_error returns other ran
    have recorded := Import.prepare_recorded s root spares
      (selected.filter fun n => !n.isWorkspaceRoot) (Import.setInProgress true w)
    rw [before] at recorded
    exact recorded

/-- Two packages are imported into a new session. -/
def sampleImportBy {τ : Type} (monitor : Monitor (Importing τ)) (kept : τ) :
    EStateM.Result Failure (World (Importing τ)) (List Project) :=
  importWorkspace (.sample ["a/x", "b/y"]) monitor (.sample ["a/x", "b/y"])
    (["a/x", "b/y"].map PackageNode.ofPath) ⟨.empty, [], ⟨.empty, false, kept⟩⟩

/-- Nobody cancels; the import is cancelled before the second package, or not at all; it is cancelled
before the records of the second package are asked for. -/
theorem importWorkspace_aborted_sample :
    (∃ seen, (stateAfter (sampleImportBy Monitor.silent.noting ([], ()))).client.client.1 = seen ∧
      seen.length = 14 ∧ ∀ mark ∈ seen, mark = true) ∧
    (∃ added more,
      (stateAfter (sampleImportBy (Monitor.silent.limited 3) (0, ()))).recorded = added ∧
      (stateAfter (sampleImportBy (Monitor.silent.limited 4) (0, ()))).recorded = added ++ more ∧
      added.map (·.1) = ["Bazel Workspace", "x"] ∧ more.map (·.1) = ["y"]) ∧
    ∃ f v, sampleImportBy (Monitor.silent.limited 1) (0, ()) = .error f v ∧
      v.client.inProgress = false ∧ v.recorded.length ≤ 1 := by
  have law (τ : Type) := @importWorkspace_aborted τ (.sample ["a/x", "b/y"])
    (.sample ["a/x", "b/y"]) (["a/x", "b/y"].map PackageNode.ofPath)
  refine ⟨?_, ?_, ?_⟩
  · obtain ⟨seen, noted, all⟩ := (law Unit).2.1 .silent ⟨.empty, [], ⟨.empty, false, ([], ())⟩⟩
      fun _ => Monitor.silent_keeps _
    have length : (stateAfter (sampleImportBy Monitor.silent.noting ([], ()))).client.client.1.length
        = 14 := by decide +kernel
    unfold sampleImportBy at length ⊢
    have whole := noted.trans (List.append_nil seen)
    rw [whole] at length
    exact ⟨seen, whole, length, all⟩
  · obtain ⟨added, more, first, second⟩ := (law Unit).2.2.1 .silent 3 4
      ⟨.empty, [], ⟨.empty, false, (0, ())⟩⟩ Monitor.silent_sparesProjects.adds (by decide)
    have names : (stateAfter (sampleImportBy (Monitor.silent.limited 3) (0, ()))).recorded.map (·.1) =
        ["Bazel Workspace", "x"] := by decide +kernel
    have names' : (stateAfter (sampleImportBy (Monitor.silent.limited 4) (0, ()))).recorded.map
        (·.1) = ["Bazel Workspace", "x"] ++ ["y"] := by decide +kernel
    rw [show (stateAfter (sampleImportBy (Monitor.silent.limited 3) (0, ()))).recorded = added
      from first] at names
    rw [show (stateAfter (sampleImportBy (Monitor.silent.limited 4) (0, ()))).recorded =
      added ++ more from second, List.map_append, names] at names'
    exact ⟨added, more, first, second, names, List.append_cancel_left names'⟩
  · obtain ⟨f, v, failed⟩ := eq_error_of_answer?
      (r := sampleImportBy (Monitor.silent.limited 1) (0, ())) (by decide +kernel)
    have kind : (match sampleImportBy (Monitor.silent.limited 1) (0, ()) with
      | .error f _ => f.isOfLoop
      | .ok .. => true) = false := by decide +kernel
    rw [failed] at kind
    unfold sampleImportBy at failed ⊢
    have marked := (law (Nat × Unit)).1 (Monitor.silent.limited 1)
      ⟨.empty, [], ⟨.empty, false, (0, ())⟩⟩
    rw [failed] at marked
    have recorded := (law (Nat × Unit)).2.2.2 (Monitor.silent.limited 1) _ v f
      (fun _ => ⟨fun _ _ start => start, fun _ _ start => start, fun _ start => start⟩) failed
      (.inr ⟨Monitor.silent_returns.limited 1, kind⟩)
    refine ⟨f, v, failed, marked, ?_⟩
    rcases recorded with none | one
    · rw [none]
      exact Nat.zero_le 1
    · rw [one]
      exact Nat.le_refl 1

end WorkspaceImport
