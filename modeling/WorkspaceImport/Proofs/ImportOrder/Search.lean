import WorkspaceImport.Proofs.ImportOrder.Cycle
import Mathlib.Algebra.Order.BigOperators.Group.List
import Mathlib.Algebra.Order.Ring.Nat
import Mathlib.Data.List.Perm.Subperm
/-!
The search for an order, one turn after the other. A turn looks at the innermost frame, or starts from
the next package when there is none; the marks stay from one start to the next. Whatever turn it is,
the marks and the stack say the same, what is looked up is there, and no package was pushed twice. So
a package costs one look for each of its dependencies and one more, and the search comes to an end.
-/
namespace WorkspaceImport

/-- How often the frames of some packages are looked at: once for every dependency, and once more. -/
def DependencyGraph.looks (graph : DependencyGraph) (packages : List String) : Nat :=
  (packages.map fun package => (graph.dependencies package).length + 1).sum

theorem DependencyGraph.looks_append (graph : DependencyGraph) (packages others : List String) :
    graph.looks (packages ++ others) = graph.looks packages + graph.looks others := by
  rw [looks, List.map_append, List.sum_append, looks, looks]

theorem DependencyGraph.looks_le (graph : DependencyGraph) {packages others : List String}
    (distinct : packages.Nodup) (among : packages ⊆ others) :
    graph.looks packages ≤ graph.looks others := by
  obtain ⟨picked, same, within⟩ := List.subperm_of_subset distinct among
  calc graph.looks packages
    _ = graph.looks picked := (same.map _).sum_nat.symm
    _ ≤ graph.looks others := (within.map _).sum_le_sum fun _ _ => Nat.zero_le _

namespace ImportOrder

theorem Stacked.waits {graph : DependencyGraph} {finished : List String} {top : Option String}
    {above below : List Frame} {f : Frame} (stacked : Stacked graph finished top (above ++ f :: below)) :
    f.Waits graph finished ((above.map (·.name)).getLast?.or top) := by
  induction above generalizing top with
  | nil => exact stacked.1
  | cons first rest ih =>
    have waits := ih stacked.2
    rw [List.map_cons, List.getLast?_cons]
    cases last : (rest.map (·.name)).getLast? with
    | none => simpa [last] using waits
    | some name => simpa [last] using waits

namespace Traversal

variable {graph : DependencyGraph} {t u : Traversal} {name : String}

/-- What the marks, the stack and the dependencies that were looked at say about each other. -/
structure Consistent (graph : DependencyGraph) (t : Traversal) : Prop where
  inProgress : ∀ name, t.marks.get? name = some .inProgress ↔ name ∈ t.path
  distinct : t.path.Nodup
  successors : t.path.IsChain fun upper lower => graph.Edge lower upper
  done : ∀ package dependency, t.marks.get? package = some .done →
    graph.Edge package dependency → t.marks.get? dependency = some .done
  -- the innermost frame comes first, so the one above a frame is the last of those before it
  consumed : ∀ above f below, t.stack = above ++ f :: below →
    ∃ passed, graph.get? f.name = some (passed ++ f.pending) ∧ ∀ dependency ∈ passed,
      t.marks.get? dependency = some .done ∨ (above.map (·.name)).getLast? = some dependency

theorem Sound.consistent (sound : Sound graph t) : Consistent graph t where
  inProgress := sound.inProgress
  distinct := sound.distinct
  successors := sound.stacked.edges
  done package dependency finished edge := by
    rw [sound.done] at finished ⊢
    exact sound.ordered.mem_of_edge finished edge
  consumed above f below whole := by
    have stacked := sound.stacked
    rw [whole] at stacked
    obtain ⟨passed, dependencies, behind, _⟩ := stacked.waits
    refine ⟨passed, dependencies, ?_⟩
    intro dependency member
    rw [sound.done]
    simpa using behind dependency member

def pushedBy (t u : Traversal) : List String :=
  u.path.take (u.stack.length - t.stack.length)

/-- A step leaves everything that was pushed on the stack or among what is finished, and uses up one of
the looks that the pushed packages cost. -/
theorem Steps.accounts (steps : Steps graph t u) :
    (pushedBy t u ++ (t.path ++ t.finished)).Perm (u.path ++ u.finished) ∧
      u.weight + 1 = t.weight + graph.looks (pushedBy t u) := by
  cases steps with
  | @finish name below shape =>
    have nothing : pushedBy t ⟨t.marks.insert name .done, below, name :: t.finished⟩ = [] := by
      simp [pushedBy, shape]
    rw [nothing, path, shape]
    refine ⟨List.perm_middle.symm, ?_⟩
    simp [weight, shape, DependencyGraph.looks, Nat.add_comm]
  | @enter name dependency pending below shape unvisited =>
    have entered : pushedBy t (Traversal.enter graph dependency
        { t with stack := ⟨name, pending⟩ :: below }) = [dependency] := by
      simp [pushedBy, path, shape, Traversal.enter]
    rw [entered, path, shape]
    refine ⟨.refl _, ?_⟩
    simp only [weight, shape, Traversal.enter, DependencyGraph.looks, DependencyGraph.dependencies,
      List.foldr_cons, List.length_cons, List.map_cons, List.map_nil, List.sum_cons, List.sum_nil]
    omega
  | @pass name dependency pending below shape visited left =>
    have nothing : pushedBy t { t with stack := ⟨name, pending⟩ :: below } = [] := by
      simp [pushedBy, shape]
    rw [nothing, path, shape]
    refine ⟨.refl _, ?_⟩
    simp only [weight, shape, DependencyGraph.looks, List.foldr_cons, List.length_cons,
      List.map_nil, List.sum_nil]
    omega

end Traversal

/-- How far a search has got: the packages that it did not start from yet, those that were put on the
stack so far, the last one first, and the traversal under way. -/
structure Search where
  starts : List String
  pushed : List String
  now : Traversal

namespace Search

variable {graph : DependencyGraph} {s u : Search} {n : Nat}

def start (graph : DependencyGraph) : Search :=
  ⟨graph.keys, [], Traversal.start graph.keys⟩

/-- One turn: a look at the innermost frame, or a start from the next package, which is pushed unless
it was visited before. The answer is empty when everything was started from. -/
def turn (graph : DependencyGraph) (s : Search) : Except (List String) (Option Search) :=
  match Traversal.step graph s.now with
  | .error cycle => .error cycle
  | .ok (some next) => .ok (some ⟨s.starts, Traversal.pushedBy s.now next ++ s.pushed, next⟩)
  | .ok none =>
    match s.starts with
    | [] => .ok none
    | name :: rest =>
      if s.now.marks.get? name = some .unvisited then
        .ok (some ⟨rest, name :: s.pushed, Traversal.enter graph name s.now⟩)
      else .ok (some ⟨rest, s.pushed, s.now⟩)

/-- A search after some turns. When it has halted, it stays as it is. -/
def after (graph : DependencyGraph) : Nat → Search
  | 0 => start graph
  | n + 1 =>
    match turn graph (after graph n) with
    | .ok (some next) => next
    | _ => after graph n

def Halted (graph : DependencyGraph) (s : Search) : Prop :=
  ∀ u, turn graph s ≠ .ok (some u)

inductive Turns (graph : DependencyGraph) (s : Search) : Search → Prop where
  | look {next : Traversal} (stepped : Traversal.step graph s.now = .ok (some next)) :
      Turns graph s ⟨s.starts, Traversal.pushedBy s.now next ++ s.pushed, next⟩
  | enter {name : String} {rest : List String} (empty : s.now.stack = [])
      (first : s.starts = name :: rest) (unvisited : s.now.marks.get? name = some .unvisited) :
      Turns graph s ⟨rest, name :: s.pushed, Traversal.enter graph name s.now⟩
  | skip {name : String} {rest : List String} (empty : s.now.stack = [])
      (first : s.starts = name :: rest) (visited : s.now.marks.get? name ≠ some .unvisited) :
      Turns graph s ⟨rest, s.pushed, s.now⟩

theorem turns_of_turn (turned : turn graph s = .ok (some u)) : Turns graph s u := by
  unfold turn at turned
  split at turned
  next => cases turned
  next next stepped =>
    cases turned
    exact .look stepped
  next stopped =>
    have empty := Traversal.step_eq_none_iff.1 stopped
    split at turned
    next => cases turned
    next name rest first =>
      split at turned
      next unvisited =>
        cases turned
        exact .enter empty first unvisited
      next visited =>
        cases turned
        exact .skip empty first visited

theorem after_succ (turned : turn graph (after graph n) = .ok (some u)) : after graph (n + 1) = u := by
  rw [after, turned]

theorem Halted.after_succ (halted : Halted graph (after graph n)) :
    after graph (n + 1) = after graph n := by
  rw [after]
  split
  next next turned => exact absurd turned (halted next)
  next => rfl

theorem after_keeps {J : Search → Prop} (begins : J (start graph))
    (kept : ∀ s u, J s → Turns graph s u → J u) (n : Nat) : J (after graph n) := by
  induction n with
  | zero => exact begins
  | succ n ih =>
    by_cases halted : Halted graph (after graph n)
    · rw [halted.after_succ]
      exact ih
    · obtain ⟨u, turned⟩ := not_forall_not.1 halted
      rw [after_succ turned]
      exact kept _ u ih (turns_of_turn turned)

/-- A search comes from the start of a traversal, has packages of the graph before it, and what it
pushed is on the stack or finished. -/
structure Regular (graph : DependencyGraph) (s : Search) : Prop where
  reached : Traversal.Reached graph s.now
  known : ∀ name ∈ s.starts, name ∈ graph.keys
  pushed : s.pushed.Perm (s.now.path ++ s.now.finished)

theorem Regular.turns (regular : Regular graph s) (turns : Turns graph s u) : Regular graph u := by
  cases turns with
  | look stepped =>
    obtain ⟨account, _⟩ := (Traversal.steps_of_step stepped).accounts
    exact ⟨regular.reached.stepped stepped, regular.known,
      (regular.pushed.append_left _).trans account⟩
  | enter empty first unvisited =>
    refine ⟨regular.reached.entered empty unvisited, ?_, regular.pushed.cons _⟩
    intro name later
    exact regular.known name (first ▸ List.mem_cons_of_mem _ later)
  | skip empty first visited =>
    refine ⟨regular.reached, ?_, regular.pushed⟩
    intro name later
    exact regular.known name (first ▸ List.mem_cons_of_mem _ later)

theorem regular_after (graph : DependencyGraph) (n : Nat) : Regular graph (after graph n) :=
  after_keeps ⟨.start, fun _ known => known, .refl _⟩ (fun _ _ => Regular.turns) n

theorem Regular.nodup_pushed (closed : graph.Closed) (regular : Regular graph s) :
    s.pushed.Nodup := by
  have sound := regular.reached.sound closed
  rw [regular.pushed.nodup_iff, List.nodup_append]
  refine ⟨sound.distinct, sound.once, ?_⟩
  rintro name waiting _ finished rfl
  exact sound.toMarked.not_mem_finished waiting finished

theorem Regular.pushed_subset (closed : graph.Closed) (regular : Regular graph s) :
    s.pushed ⊆ graph.keys := by
  have sound := regular.reached.sound closed
  intro name member
  rcases List.mem_append.1 (regular.pushed.subset member) with waiting | finished
  · exact sound.mem_keys ((sound.inProgress name).2 waiting)
  · exact sound.mem_keys ((sound.done name).2 finished)

/-- The package whose mark and dependencies the next turn asks for. -/
def asked (s : Search) : Option String :=
  match s.now.stack with
  | [] => s.starts.head?
  | f :: _ => f.pending.head?

/-- Whatever a turn looks up is there: a mark and dependencies in any case, and a place on the path for
what is in progress. -/
def Finds (graph : DependencyGraph) (s : Search) : Prop :=
  ∀ name, s.asked = some name →
    (∃ mark, s.now.marks.get? name = some mark) ∧
      (∃ dependencies, graph.get? name = some dependencies) ∧
      (s.now.marks.get? name = some .inProgress → name ∈ s.now.path)

theorem Regular.finds (closed : graph.Closed) (regular : Regular graph s) : Finds graph s := by
  intro name asked
  have sound := regular.reached.sound closed
  have known : name ∈ graph.keys := by
    unfold Search.asked at asked
    split at asked
    next => exact regular.known name (List.mem_of_head? asked)
    next f below shape =>
      obtain ⟨package, pending⟩ := f
      obtain ⟨more, rfl⟩ := List.head?_eq_some_iff.1 asked
      exact closed _ _ (sound.edge shape)
  exact ⟨sound.toMarked.marked known,
    OrderedMap.contains_iff.1 (OrderedMap.contains_iff_mem_keys.2 known),
    (sound.inProgress name).1⟩

theorem Turns.accounts (turns : Turns graph s u) :
    u.starts.length + u.now.weight + 1 + graph.looks s.pushed =
      s.starts.length + s.now.weight + graph.looks u.pushed := by
  cases turns with
  | look stepped =>
    obtain ⟨_, account⟩ := (Traversal.steps_of_step stepped).accounts
    rw [DependencyGraph.looks_append]
    simp only
    omega
  | enter empty first unvisited =>
    simp only [first, Traversal.weight, Traversal.enter, empty, DependencyGraph.looks,
      DependencyGraph.dependencies, List.foldr_cons, List.foldr_nil, List.length_cons, List.map_cons,
      List.sum_cons]
    omega
  | skip empty first visited =>
    simp only [first, List.length_cons]
    omega

theorem after_accounts (going : ∀ m < n, ∃ u, turn graph (after graph m) = .ok (some u)) :
    n + (after graph n).starts.length + (after graph n).now.weight =
      graph.keys.length + graph.looks (after graph n).pushed := by
  induction n with
  | zero => simp [after, start, Traversal.start, Traversal.weight, DependencyGraph.looks]
  | succ n ih =>
    obtain ⟨u, turned⟩ := going n (Nat.lt_succ_self n)
    have before := ih fun m earlier => going m (Nat.lt_succ_of_lt earlier)
    have account := (turns_of_turn turned).accounts
    rw [after_succ turned]
    omega

theorem exists_halted (closed : graph.Closed) :
    ∃ n ≤ graph.keys.length + graph.looks graph.keys, Halted graph (after graph n) := by
  by_contra endless
  simp only [Halted, not_exists, not_and, not_forall, not_not] at endless
  have going : ∀ m < graph.keys.length + graph.looks graph.keys + 1,
      ∃ u, turn graph (after graph m) = .ok (some u) :=
    fun m earlier => endless m (Nat.lt_succ_iff.1 earlier)
  -- one turn more than there is room for: packages of the graph, pushed once, do not cost that much
  have account := after_accounts going
  have regular := regular_after graph (graph.keys.length + graph.looks graph.keys + 1)
  have few := graph.looks_le (regular.nodup_pushed closed) (regular.pushed_subset closed)
  omega

/-- What comes out when a search goes on to its end. -/
def answer (graph : DependencyGraph) (s : Search) : Except (List String) (List String) :=
  (Traversal.run graph s.now >>= s.starts.foldlM (Traversal.runFrom graph)).map
    fun t => t.finished.reverse

theorem Turns.answer_eq (turns : Turns graph s u) : answer graph s = answer graph u := by
  cases turns with
  | look stepped => rw [answer, answer, Traversal.run_eq, stepped]
  | @enter name rest empty first unvisited =>
    have begins : Traversal.runFrom graph s.now name =
        Traversal.run graph (Traversal.enter graph name s.now) := by
      rw [Traversal.runFrom, unvisited]
    rw [answer, answer, Traversal.run_of_empty graph empty, first, ← begins]
    rfl
  | @skip name rest empty first visited =>
    have stays : Traversal.runFrom graph s.now name = .ok s.now := by
      unfold Traversal.runFrom
      split
      next unvisited => exact absurd unvisited visited
      next => rfl
    rw [answer, answer, Traversal.run_of_empty graph empty, first]
    change ((Traversal.runFrom graph s.now name >>= _).map _) = _
    rw [stays]

theorem answer_after (graph : DependencyGraph) (n : Nat) :
    answer graph (after graph n) = postOrder graph := by
  refine after_keeps (J := fun s => answer graph s = postOrder graph) ?_ ?_ n
  · rw [answer, start, Traversal.run_of_empty graph rfl]
    rfl
  · intro s u same turns
    rw [← turns.answer_eq, same]

/-- When a search has halted, everything was started from and the answer is what was finished, or the
innermost frame closes a cycle. -/
theorem Halted.answer_eq (halted : Halted graph s) :
    (turn graph s = .ok none ∧ answer graph s = .ok s.now.finished.reverse) ∨
      ∃ cycle, turn graph s = .error cycle ∧ answer graph s = .error cycle := by
  unfold Halted turn at halted
  rw [turn, answer]
  split at halted
  next cycle failed =>
    rw [Traversal.run_eq, failed]
    exact .inr ⟨cycle, rfl, rfl⟩
  next next stepped => exact absurd rfl (halted _)
  next stopped =>
    split at halted
    next first =>
      rw [Traversal.run_eq, stopped, first]
      exact .inl ⟨rfl, rfl⟩
    next name rest first =>
      split at halted
      all_goals exact absurd rfl (halted _)

end Search

/-- After every number of turns of the search that an order comes from, what is in progress is what is
on the stack, each package there depends on the one above it, what is done depends on nothing else,
and a package on the stack has passed over dependencies that are done and the one above it. Whatever
the next turn looks up is there, and nothing was pushed twice. After as many turns at the latest as
there are packages and looks at them the search has halted, with the order or the cycle that is
reported. -/
theorem order_turns (root : PackageNode) (selected : List PackageNode) (infos : List PackageInfo) :
    (∀ n, (Search.after (graph selected infos) n).now.Consistent (graph selected infos) ∧
      (Search.after (graph selected infos) n).Finds (graph selected infos) ∧
      (Search.after (graph selected infos) n).pushed.Nodup ∧
      (Search.after (graph selected infos) n).answer (graph selected infos) =
        postOrder (graph selected infos)) ∧
    ∃ n ≤ (graph selected infos).keys.length + (graph selected infos).looks (graph selected infos).keys,
      ((Search.after (graph selected infos) n).turn (graph selected infos) = .ok none ∧
        order root selected infos = .ok (root ::
          nodesOf selected (Search.after (graph selected infos) n).now.finished.reverse)) ∨
      ∃ cycle, (Search.after (graph selected infos) n).turn (graph selected infos) = .error cycle ∧
        order root selected infos = .error (.dependencyCycle cycle) := by
  have closed := closed_graph selected infos
  have answered := Search.answer_after (graph selected infos)
  constructor
  · intro n
    have regular := Search.regular_after (graph selected infos) n
    exact ⟨(regular.reached.sound closed).consistent, regular.finds closed,
      regular.nodup_pushed closed, answered n⟩
  · obtain ⟨n, early, halted⟩ := Search.exists_halted closed
    refine ⟨n, early, ?_⟩
    have same := answered n
    rcases halted.answer_eq with ⟨ended, found⟩ | ⟨cycle, failed, found⟩
    · rw [found] at same
      exact .inl ⟨ended, by rw [order, ← same, nodesOf]⟩
    · rw [found] at same
      exact .inr ⟨cycle, failed, by rw [order, ← same]⟩

/-- The first package depends on both others, and the last one on the second: when the last one has
passed over the second, which is done, the first one waits for it. -/
theorem order_turns_sample :
    let selected := ["a", "b", "c"].map PackageNode.ofPath
    let infos : List PackageInfo := [⟨"//a", [], ["//c", "//b:lib"], [], "", ""⟩,
      ⟨"//c", [], ["//b"], [], "", ""⟩]
    let search := Search.after (graph selected infos) 5
    search.now.stack = [⟨"//c", []⟩, ⟨"//a", []⟩] ∧ search.now.marks.get? "//b" = some .done ∧
      search.pushed = ["//c", "//b", "//a"] ∧ search.pushed.Nodup ∧
      (graph selected infos).Edge "//a" "//c" ∧
      ∃ passed, (graph selected infos).get? "//c" = some (passed ++ []) ∧
        ∀ dependency ∈ passed, search.now.marks.get? dependency = some .done := by
  intro selected infos search
  have shape : search.now.stack = [⟨"//c", []⟩, ⟨"//a", []⟩] := by decide +kernel
  have done : search.now.marks.get? "//b" = some .done := by decide +kernel
  have pushed : search.pushed = ["//c", "//b", "//a"] := by decide +kernel
  have invariants : search.now.Consistent (graph selected infos) ∧
      search.Finds (graph selected infos) ∧ search.pushed.Nodup ∧
        search.answer (graph selected infos) = postOrder (graph selected infos) :=
    (order_turns (PackageNode.ofPath "") selected infos).1 5
  generalize search = found at *
  obtain ⟨consistent, _, distinct, _⟩ := invariants
  have successors := consistent.successors
  rw [Traversal.path, shape] at successors
  obtain ⟨passed, whole, behind⟩ := consistent.consumed [] _ _ shape
  refine ⟨shape, done, pushed, distinct, (List.isChain_cons_cons.1 successors).1, passed, whole, ?_⟩
  intro dependency member
  simpa using behind dependency member

end ImportOrder

end WorkspaceImport
