import WorkspaceImport.ImportOrder.Traversal
import WorkspaceImport.Proofs.ImportOrder.Graph
import WorkspaceImport.Proofs.Outcome
/-!
What holds at every step of a traversal. The marks tell what is on the stack and what is finished, a
frame waits for what stands above it, and nothing is finished before its dependencies. So a traversal
that ends has finished every package of the graph once, dependencies first.
-/
namespace WorkspaceImport

namespace ImportOrder

/-- A frame has passed over dependencies that are finished, and over what stands above it. -/
def Frame.Waits (graph : DependencyGraph) (finished : List String) (above : Option String)
    (f : Frame) : Prop :=
  ∃ passed, graph.get? f.name = some (passed ++ f.pending) ∧
    (∀ dependency ∈ passed, dependency ∈ finished ∨ above = some dependency) ∧
    ∀ dependency, above = some dependency → dependency ∈ passed

def Stacked (graph : DependencyGraph) (finished : List String) : Option String → List Frame → Prop
  | _, [] => True
  | above, f :: below =>
    f.Waits graph finished above ∧ Stacked graph finished (some f.name) below

/-- All dependencies of what was finished were finished before it; the last one stands first. -/
def DependenciesFirst (graph : DependencyGraph) : List String → Prop
  | [] => True
  | name :: earlier =>
    (∀ dependency, graph.Edge name dependency → dependency ∈ earlier) ∧
      DependenciesFirst graph earlier

namespace Stacked

variable {graph : DependencyGraph} {finished : List String} {above : Option String}
  {stack : List Frame}

theorem grow (name : String) (stacked : Stacked graph finished above stack) :
    Stacked graph (name :: finished) above stack := by
  induction stack generalizing above with
  | nil => trivial
  | cons f below ih =>
    obtain ⟨⟨passed, whole, behind, waiting⟩, rest⟩ := stacked
    refine ⟨⟨passed, whole, ?_, waiting⟩, ih rest⟩
    intro dependency member
    exact (behind dependency member).imp_left (List.mem_cons_of_mem name)

theorem pop {name : String} (stacked : Stacked graph finished (some name) stack) :
    Stacked graph (name :: finished) none stack := by
  cases stack with
  | nil => trivial
  | cons f below =>
    obtain ⟨⟨passed, whole, behind, waiting⟩, rest⟩ := stacked
    refine ⟨⟨passed, whole, ?_, nofun⟩, rest.grow name⟩
    intro dependency member
    left
    rcases behind dependency member with before | now
    · exact List.mem_cons_of_mem name before
    · rw [Option.some.inj now]
      exact List.mem_cons_self

end Stacked

theorem DependenciesFirst.split {graph : DependencyGraph} {finished : List String}
    (ordered : DependenciesFirst graph finished) {package dependency : String}
    (member : package ∈ finished) (edge : graph.Edge package dependency) :
    ∃ later earlier, finished = later ++ package :: earlier ∧ dependency ∈ earlier := by
  induction finished with
  | nil => cases member
  | cons name rest ih =>
    rcases List.mem_cons.1 member with rfl | before
    · exact ⟨[], rest, rfl, ordered.1 dependency edge⟩
    · obtain ⟨later, earlier, whole, found⟩ := ih ordered.2 before
      exact ⟨name :: later, earlier, by rw [whole, List.cons_append], found⟩

namespace Traversal

/-- The names on the stack, the innermost first. -/
def path (t : Traversal) : List String :=
  t.stack.map (·.name)

/-- The marks tell which names are on the stack and which are finished, and no name is there twice. -/
structure Marked (graph : DependencyGraph) (t : Traversal) : Prop where
  keys : t.marks.keys = graph.keys
  inProgress : ∀ name, t.marks.get? name = some .inProgress ↔ name ∈ t.path
  done : ∀ name, t.marks.get? name = some .done ↔ name ∈ t.finished
  distinct : t.path.Nodup
  once : t.finished.Nodup

structure Sound (graph : DependencyGraph) (t : Traversal) : Prop extends Marked graph t where
  stacked : Stacked graph t.finished none t.stack
  ordered : DependenciesFirst graph t.finished

variable {graph : DependencyGraph} {t u : Traversal} {name : String}

namespace Marked

theorem marked (marked : Marked graph t) (known : name ∈ graph.keys) :
    ∃ mark, t.marks.get? name = some mark :=
  OrderedMap.contains_iff.1 (OrderedMap.contains_iff_mem_keys.2 (marked.keys ▸ known))

theorem mem_keys (marked : Marked graph t) {mark : Mark}
    (found : t.marks.get? name = some mark) : name ∈ graph.keys := by
  rw [← marked.keys]
  exact OrderedMap.contains_iff_mem_keys.1 (OrderedMap.contains_iff.2 ⟨mark, found⟩)

theorem keys_insert (marked : Marked graph t) (known : name ∈ graph.keys) (mark : Mark) :
    (t.marks.insert name mark).keys = graph.keys := by
  rw [OrderedMap.keys_insert, if_pos (by rw [marked.keys]; exact known), marked.keys]

theorem not_mem_finished (marked : Marked graph t) (waiting : name ∈ t.path) :
    name ∉ t.finished := by
  intro finished
  have mark := (marked.inProgress name).2 waiting
  rw [(marked.done name).2 finished] at mark
  cases mark

theorem pass (marked : Marked graph t) {dependency : String} {pending : List String}
    {below : List Frame} (shape : t.stack = ⟨name, dependency :: pending⟩ :: below) :
    Marked graph { t with stack := ⟨name, pending⟩ :: below } := by
  have same : path { t with stack := ⟨name, pending⟩ :: below } = t.path := by
    rw [path, path, shape, List.map_cons, List.map_cons]
  exact {
    keys := marked.keys
    inProgress := fun other => by
      rw [same]
      exact marked.inProgress other
    done := marked.done
    distinct := by
      rw [same]
      exact marked.distinct
    once := marked.once }

theorem enter (marked : Marked graph t) (unvisited : t.marks.get? name = some .unvisited) :
    Marked graph (enter graph name t) where
  keys := marked.keys_insert (marked.mem_keys unvisited) _
  inProgress other := by
    change (t.marks.insert name .inProgress).get? other = _ ↔ other ∈ name :: t.path
    rw [OrderedMap.get?_insert, List.mem_cons]
    by_cases same : name = other
    · simp [same]
    · have differ : ¬other = name := fun h => same h.symm
      simpa only [if_neg same, differ, false_or] using marked.inProgress other
  done other := by
    simp only [Traversal.enter, OrderedMap.get?_insert]
    by_cases same : name = other
    · have outside : other ∉ t.finished := by
        rw [← marked.done, ← same, unvisited]
        simp
      simp [same, outside]
    · simpa only [if_neg same] using marked.done other
  distinct := by
    have outside : name ∉ t.path := by
      rw [← marked.inProgress, unvisited]
      simp
    exact List.nodup_cons.2 ⟨outside, marked.distinct⟩
  once := marked.once

theorem finish (marked : Marked graph t) {f : Frame} {below : List Frame}
    (shape : t.stack = f :: below) :
    Marked graph ⟨t.marks.insert f.name .done, below, f.name :: t.finished⟩ := by
  have top : t.path = f.name :: below.map (·.name) := by
    rw [path, shape, List.map_cons]
  have distinct := marked.distinct
  rw [top, List.nodup_cons] at distinct
  have waiting : f.name ∈ t.path := top ▸ List.mem_cons_self
  have known : f.name ∈ graph.keys := marked.mem_keys ((marked.inProgress _).2 waiting)
  refine ⟨marked.keys_insert known _, ?_, ?_, distinct.2,
    List.nodup_cons.2 ⟨marked.not_mem_finished waiting, marked.once⟩⟩
  · intro other
    have before := marked.inProgress other
    rw [top, List.mem_cons] at before
    simp only [path, OrderedMap.get?_insert]
    by_cases same : f.name = other
    · rw [← same]
      simpa using distinct.1
    · have differ : ¬other = f.name := fun h => same h.symm
      simpa only [if_neg same, differ, false_or] using before
  · intro other
    simp only [OrderedMap.get?_insert, List.mem_cons]
    by_cases same : f.name = other
    · simp [same]
    · have differ : ¬other = f.name := fun h => same h.symm
      simpa only [if_neg same, differ, false_or] using marked.done other

end Marked

/-- What one step does: the innermost frame is finished, or it enters its next dependency, or it
passes over it. -/
inductive Steps (graph : DependencyGraph) (t : Traversal) : Traversal → Prop where
  | finish {name : String} {below : List Frame} (shape : t.stack = ⟨name, []⟩ :: below) :
      Steps graph t ⟨t.marks.insert name .done, below, name :: t.finished⟩
  | enter {name dependency : String} {pending : List String} {below : List Frame}
      (shape : t.stack = ⟨name, dependency :: pending⟩ :: below)
      (unvisited : t.marks.get? dependency = some .unvisited) :
      Steps graph t (enter graph dependency { t with stack := ⟨name, pending⟩ :: below })
  | pass {name dependency : String} {pending : List String} {below : List Frame}
      (shape : t.stack = ⟨name, dependency :: pending⟩ :: below)
      (visited : t.marks.get? dependency ≠ some .unvisited)
      (left : t.marks.get? dependency ≠ some .inProgress) :
      Steps graph t { t with stack := ⟨name, pending⟩ :: below }

theorem steps_of_step (stepped : step graph t = .ok (some u)) : Steps graph t u := by
  unfold step at stepped
  split at stepped
  next => cases stepped
  next name below shape =>
    cases stepped
    exact .finish shape
  next name dependency pending below shape =>
    split at stepped
    next => cases stepped
    next unvisited =>
      cases stepped
      exact .enter shape unvisited
    next left visited =>
      cases stepped
      exact .pass shape visited left

theorem step_eq_none_iff : step graph t = .ok none ↔ t.stack = [] := by
  constructor
  · intro stopped
    unfold step at stopped
    split at stopped
    next empty => exact empty
    next => cases stopped
    next =>
      split at stopped
      all_goals cases stopped
  · intro empty
    rw [step, empty]

theorem exists_steps_of_run (waiting : t.stack ≠ []) (returned : run graph t = .ok u) :
    ∃ next, Steps graph t next ∧ run graph next = .ok u := by
  unfold run at returned
  split at returned
  next => cases returned
  next stopped => exact absurd (step_eq_none_iff.1 stopped) waiting
  next next stepped => exact ⟨next, steps_of_step stepped, returned⟩

theorem run_eq : run graph t =
    match step graph t with
    | .error cycle => .error cycle
    | .ok none => .ok t
    | .ok (some next) => run graph next := by
  conv => lhs; unfold run
  split
  next cycle failed => rw [failed]
  next stopped => rw [stopped]
  next next stepped => rw [stepped]

theorem run_of_empty (graph : DependencyGraph) (empty : t.stack = []) : run graph t = .ok t := by
  rw [run_eq, step_eq_none_iff.2 empty]

theorem Sound.enter (marked : Marked graph t) (unvisited : t.marks.get? name = some .unvisited)
    (stacked : Stacked graph t.finished (some name) t.stack)
    (ordered : DependenciesFirst graph t.finished) : Sound graph (enter graph name t) where
  toMarked := marked.enter unvisited
  stacked := by
    obtain ⟨dependencies, found⟩ := OrderedMap.contains_iff.1
      (OrderedMap.contains_iff_mem_keys.2 (marked.mem_keys unvisited))
    refine ⟨⟨[], ?_, nofun, nofun⟩, stacked⟩
    rw [found, Option.getD_some, List.nil_append]
  ordered := ordered

theorem Sound.edge (sound : Sound graph t) {dependency : String} {pending : List String}
    {below : List Frame} (shape : t.stack = ⟨name, dependency :: pending⟩ :: below) :
    graph.Edge name dependency := by
  have stacked := sound.stacked
  rw [shape] at stacked
  obtain ⟨passed, whole, _⟩ := stacked.1
  exact ⟨_, whole, by simp⟩

theorem Sound.waits (sound : Sound graph t) {dependency : String} {pending : List String}
    {below : List Frame} (shape : t.stack = ⟨name, dependency :: pending⟩ :: below)
    {above : Option String} (passes : dependency ∈ t.finished ∨ above = some dependency)
    (waiting : ∀ other, above = some other → other = dependency) :
    Frame.Waits graph t.finished above ⟨name, pending⟩ := by
  have stacked := sound.stacked
  rw [shape] at stacked
  obtain ⟨passed, whole, behind, _⟩ := stacked.1
  refine ⟨passed ++ [dependency], ?_, ?_, ?_⟩
  · rw [whole, List.append_assoc, List.singleton_append]
  · intro other member
    rcases List.mem_append.1 member with before | last
    · exact .inl ((behind other before).resolve_right nofun)
    · rw [List.mem_singleton.1 last]
      exact passes
  · intro other now
    rw [waiting other now]
    exact List.mem_append_right passed (List.mem_singleton.2 rfl)

theorem Sound.steps (closed : graph.Closed) (sound : Sound graph t) (steps : Steps graph t u) :
    Sound graph u := by
  have stacked := sound.stacked
  cases steps with
  | finish shape =>
    rw [shape] at stacked
    obtain ⟨⟨passed, whole, behind, _⟩, rest⟩ := stacked
    refine ⟨sound.toMarked.finish shape, rest.pop, ?_, sound.ordered⟩
    rintro dependency ⟨dependencies, found, member⟩
    rw [whole] at found
    have passedOver : dependency ∈ passed := by simpa [← Option.some.inj found] using member
    simpa using behind dependency passedOver
  | enter shape unvisited =>
    rw [shape] at stacked
    refine Sound.enter (sound.toMarked.pass shape) unvisited ⟨?_, stacked.2⟩ sound.ordered
    exact sound.waits shape (.inr rfl) fun other above => (Option.some.inj above).symm
  | @pass name dependency _ _ shape visited left =>
    rw [shape] at stacked
    -- what is neither on the stack nor new is finished
    have finished : dependency ∈ t.finished := by
      obtain ⟨mark, found⟩ := sound.toMarked.marked (closed _ _ (sound.edge shape))
      rw [← sound.done, found]
      cases mark with
      | done => rfl
      | inProgress => exact absurd found left
      | unvisited => exact absurd found visited
    refine ⟨sound.toMarked.pass shape, ⟨?_, stacked.2⟩, sound.ordered⟩
    exact sound.waits shape (.inl finished) nofun

/-- The moments of a traversal of a graph, from whatever packages it was started. -/
inductive Reached (graph : DependencyGraph) : Traversal → Prop where
  | start : Reached graph (start graph.keys)
  | entered {t : Traversal} {name : String} (reached : Reached graph t) (empty : t.stack = [])
      (unvisited : t.marks.get? name = some .unvisited) : Reached graph (enter graph name t)
  | stepped {t u : Traversal} (reached : Reached graph t)
      (stepped : step graph t = .ok (some u)) : Reached graph u

theorem sound_start (graph : DependencyGraph) : Sound graph (start graph.keys) := by
  have marks (name : String) : (start graph.keys).marks.get? name =
      if name ∈ graph.keys then some .unvisited else none :=
    OrderedMap.get?_ofList_map graph.nodup _ name
  have unmarked (name : String) (mark : Mark) (visited : mark ≠ .unvisited) :
      ¬(start graph.keys).marks.get? name = some mark := by
    rw [marks]
    split
    next => exact fun same => visited (Option.some.inj same).symm
    next => nofun
  exact {
    keys := OrderedMap.keys_ofList_map graph.nodup _
    inProgress := fun name => iff_of_false (unmarked name _ nofun) List.not_mem_nil
    done := fun name => iff_of_false (unmarked name _ nofun) List.not_mem_nil
    distinct := List.nodup_nil
    once := List.nodup_nil
    stacked := trivial
    ordered := trivial }

theorem Reached.sound (closed : graph.Closed) (reached : Reached graph t) : Sound graph t := by
  induction reached with
  | start => exact sound_start graph
  | entered _ empty unvisited ih =>
    refine Sound.enter ih.toMarked unvisited ?_ ih.ordered
    rw [empty]
    trivial
  | stepped _ stepped ih => exact ih.steps closed (steps_of_step stepped)

def Visited (t : Traversal) (name : String) : Prop :=
  name ∈ t.path ∨ name ∈ t.finished

theorem Visited.steps (visited : t.Visited name) (steps : Steps graph t u) : u.Visited name := by
  cases steps with
  | finish shape =>
    rw [Visited, path, shape] at visited
    rcases visited with waiting | finished
    · rcases List.mem_cons.1 waiting with rfl | below
      · exact .inr List.mem_cons_self
      · exact .inl below
    · exact .inr (List.mem_cons_of_mem _ finished)
  | enter shape =>
    rw [Visited, path, shape] at visited
    exact visited.imp_left (List.mem_cons_of_mem _)
  | pass shape =>
    rw [Visited, path, shape] at visited
    exact visited

theorem run_keeps {J : Traversal → Prop}
    (kept : ∀ t u, Reached graph t → Steps graph t u → J t → J u)
    (returned : run graph t = .ok u) (reached : Reached graph t) (start : J t) : J u := by
  fun_induction run graph t with
  | case1 t cycle failed => cases returned
  | case2 t stopped =>
    cases returned
    exact start
  | case3 t next stepped ih =>
    exact ih returned (reached.stepped stepped) (kept t next reached (steps_of_step stepped) start)

theorem run_ok (returned : run graph t = .ok u) (reached : Reached graph t) :
    Reached graph u ∧ u.stack = [] ∧ ∀ name, t.Visited name → u.Visited name := by
  fun_induction run graph t with
  | case1 t cycle failed => cases returned
  | case2 t stopped =>
    cases returned
    exact ⟨reached, step_eq_none_iff.1 stopped, fun _ visited => visited⟩
  | case3 t next stepped ih =>
    obtain ⟨ended, empty, kept⟩ := ih returned (reached.stepped stepped)
    exact ⟨ended, empty, fun name visited => kept name (visited.steps (steps_of_step stepped))⟩

theorem runFrom_ok (closed : graph.Closed) (returned : runFrom graph t name = .ok u)
    (reached : Reached graph t) (empty : t.stack = []) (known : name ∈ graph.keys) :
    Reached graph u ∧ u.stack = [] ∧ ∀ other, other = name ∨ other ∈ t.finished →
      other ∈ u.finished := by
  have marked := (reached.sound closed).toMarked
  unfold runFrom at returned
  split at returned
  next unvisited =>
    obtain ⟨ended, cleared, kept⟩ := run_ok returned (reached.entered empty unvisited)
    refine ⟨ended, cleared, ?_⟩
    intro other visited
    have still : u.Visited other := by
      apply kept other
      rcases visited with rfl | finished
      · exact .inl List.mem_cons_self
      · exact .inr finished
    rw [Visited, path, cleared] at still
    exact still.resolve_left List.not_mem_nil
  next notUnvisited =>
    cases returned
    refine ⟨reached, empty, ?_⟩
    rintro other (rfl | finished)
    · obtain ⟨mark, found⟩ := marked.marked known
      rw [← marked.done, found]
      cases mark with
      | done => rfl
      | unvisited => exact absurd found notUnvisited
      | inProgress =>
        have waiting := (marked.inProgress other).1 found
        rw [path, empty] at waiting
        cases waiting
    · exact finished

theorem foldlM_runFrom_ok (closed : graph.Closed) {names : List String}
    (returned : names.foldlM (runFrom graph) t = .ok u) (reached : Reached graph t)
    (empty : t.stack = []) (known : ∀ name ∈ names, name ∈ graph.keys) :
    Reached graph u ∧ u.stack = [] ∧ ∀ name, name ∈ names ∨ name ∈ t.finished →
      name ∈ u.finished := by
  induction names generalizing t with
  | nil =>
    cases returned
    exact ⟨reached, empty, fun name finished => finished.resolve_left List.not_mem_nil⟩
  | cons first rest ih =>
    rw [List.foldlM_cons, except_bind_eq_ok] at returned
    obtain ⟨v, run, others⟩ := returned
    obtain ⟨between, cleared, kept⟩ :=
      runFrom_ok closed run reached empty (known first List.mem_cons_self)
    obtain ⟨ended, cleared', kept'⟩ := ih others between cleared
      fun name member => known name (List.mem_cons_of_mem first member)
    refine ⟨ended, cleared', ?_⟩
    intro name visited
    apply kept'
    rcases visited with member | finished
    · rcases List.mem_cons.1 member with same | later
      · exact .inr (kept name (.inl same))
      · exact .inl later
    · exact .inr (kept name (.inr finished))

/-- What steps keep, and what remains when one of some packages is entered, remains when all of them
were started from. -/
theorem foldlM_runFrom_keeps (closed : graph.Closed) {J : Traversal → Prop} {names : List String}
    (kept : ∀ t u, Reached graph t → Steps graph t u → J t → J u)
    (enters : ∀ t, ∀ name ∈ names, J t → J (Traversal.enter graph name t))
    (returned : names.foldlM (runFrom graph) t = .ok u) (reached : Reached graph t)
    (empty : t.stack = []) (known : ∀ name ∈ names, name ∈ graph.keys) (start : J t) : J u := by
  induction names generalizing t with
  | nil =>
    cases returned
    exact start
  | cons first rest ih =>
    rw [List.foldlM_cons, except_bind_eq_ok] at returned
    obtain ⟨v, run, others⟩ := returned
    obtain ⟨between, cleared, _⟩ :=
      runFrom_ok closed run reached empty (known first List.mem_cons_self)
    refine ih (fun t name member => enters t name (List.mem_cons_of_mem first member)) others
      between cleared (fun name member => known name (List.mem_cons_of_mem first member)) ?_
    unfold runFrom at run
    split at run
    next unvisited =>
      exact run_keeps kept run (reached.entered empty unvisited)
        (enters t first List.mem_cons_self start)
    next =>
      cases run
      exact start

end Traversal

theorem traversal_of_postOrder {graph : DependencyGraph} {names : List String}
    (returned : postOrder graph = .ok names) :
    ∃ t, graph.keys.foldlM (Traversal.runFrom graph) (Traversal.start graph.keys) = .ok t ∧
      names = t.finished.reverse := by
  unfold postOrder at returned
  cases run : graph.keys.foldlM (Traversal.runFrom graph) (Traversal.start graph.keys) with
  | error cycle =>
    rw [run] at returned
    cases returned
  | ok t =>
    rw [run] at returned
    cases returned
    exact ⟨t, rfl, rfl⟩

theorem postOrder_ok {graph : DependencyGraph} (closed : graph.Closed) {names : List String}
    (returned : postOrder graph = .ok names) :
    names.Nodup ∧ (∀ name, name ∈ names ↔ name ∈ graph.keys) ∧
      DependenciesFirst graph names.reverse := by
  obtain ⟨t, run, rfl⟩ := traversal_of_postOrder returned
  obtain ⟨reached, _, all⟩ :=
    Traversal.foldlM_runFrom_ok closed run .start rfl fun _ member => member
  have sound := reached.sound closed
  refine ⟨List.nodup_reverse.2 sound.once, ?_, ?_⟩
  · intro name
    rw [List.mem_reverse]
    constructor
    · intro finished
      exact sound.mem_keys ((sound.done name).2 finished)
    · intro known
      exact all name (.inl known)
  · rw [List.reverse_reverse]
    exact sound.ordered

end ImportOrder

end WorkspaceImport
