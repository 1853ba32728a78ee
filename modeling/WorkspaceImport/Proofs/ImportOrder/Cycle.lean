import WorkspaceImport.Proofs.ImportOrder.Order
import Mathlib.Data.List.Chain
import Mathlib.Data.List.TakeWhile
/-!
Selections that have no order. What is on the stack of a traversal is a path of the graph, so a
package that is met again while it is on the stack closes a cycle, and that cycle is reported. The
other way round, an order that was found has all dependencies of a package before it, which leaves no
room for a cycle.
-/
namespace WorkspaceImport

/-- A way along edges leads from some package back to it. -/
def DependencyGraph.Cyclic (graph : DependencyGraph) : Prop :=
  ∃ package, Relation.TransGen graph.Edge package package

def DependencyGraph.Loopless (graph : DependencyGraph) : Prop :=
  ∀ package, ¬graph.Edge package package

/-- A way along edges that ends where it begins and meets no package twice before. -/
structure DependencyGraph.IsCycle (graph : DependencyGraph) (names : List String) : Prop where
  long : 3 ≤ names.length
  closed : names.head? = names.getLast?
  distinct : names.dropLast.Nodup
  edges : names.IsChain graph.Edge

theorem DependencyGraph.IsCycle.cyclic {graph : DependencyGraph} {names : List String}
    (cycle : graph.IsCycle names) : graph.Cyclic := by
  obtain ⟨long, closed, _, edges⟩ := cycle
  match names with
  | [] | [_] => simp at long
  | first :: second :: rest =>
    obtain ⟨edge, more⟩ := List.isChain_cons_cons.1 edges
    have last : (second :: rest).getLast (List.cons_ne_nil _ _) = first := by
      rw [List.head?_cons, List.getLast?_cons_cons,
        List.getLast?_eq_getLast_of_ne_nil (List.cons_ne_nil _ _)] at closed
      exact (Option.some.inj closed).symm
    exact ⟨first, .head' edge (List.relationReflTransGen_of_exists_isChain_cons rest more last)⟩

namespace ImportOrder

theorem loopless_graph (selected : List PackageNode) (infos : List PackageInfo) :
    (graph selected infos).Loopless :=
  fun _ edge => (edge_graph_iff.1 edge).2.2.1 rfl

section Acyclic

variable {graph : DependencyGraph} {finished : List String} {package dependency : String}

theorem DependenciesFirst.mem_of_edge (ordered : DependenciesFirst graph finished)
    (member : package ∈ finished) (edge : graph.Edge package dependency) :
    dependency ∈ finished := by
  obtain ⟨later, earlier, whole, found⟩ := ordered.split member edge
  rw [whole]
  exact List.mem_append_right later (List.mem_cons_of_mem package found)

theorem DependenciesFirst.mem_of_reflTransGen (ordered : DependenciesFirst graph finished)
    (member : package ∈ finished) (way : Relation.ReflTransGen graph.Edge package dependency) :
    dependency ∈ finished := by
  induction way with
  | refl => exact member
  | tail _ edge ih => exact ordered.mem_of_edge ih edge

theorem DependenciesFirst.not_transGen_self (ordered : DependenciesFirst graph finished)
    (once : finished.Nodup) (member : package ∈ finished) :
    ¬Relation.TransGen graph.Edge package package := by
  induction finished with
  | nil => cases member
  | cons name earlier ih =>
    obtain ⟨outside, distinct⟩ := List.nodup_cons.1 once
    rcases List.mem_cons.1 member with rfl | before
    · intro way
      obtain ⟨dependency, edge, back⟩ := Relation.TransGen.head'_iff.1 way
      exact outside (ordered.2.mem_of_reflTransGen (ordered.1 dependency edge) back)
    · exact ih ordered.2 distinct before

end Acyclic

theorem Frame.Waits.edge {graph : DependencyGraph} {finished : List String} {f : Frame}
    {dependency : String} (waits : f.Waits graph finished (some dependency)) :
    graph.Edge f.name dependency := by
  obtain ⟨passed, whole, _, waiting⟩ := waits
  exact ⟨_, whole, List.mem_append_left _ (waiting dependency rfl)⟩

theorem Stacked.edges {graph : DependencyGraph} {finished : List String} {above : Option String}
    {stack : List Frame} (stacked : Stacked graph finished above stack) :
    (stack.map (·.name)).IsChain fun upper lower => graph.Edge lower upper := by
  induction stack generalizing above with
  | nil => exact .nil
  | cons f below ih =>
    have rest := ih stacked.2
    cases below with
    | nil => exact .singleton _
    | cons g deeper => exact List.isChain_cons_cons.2 ⟨stacked.2.1.edge, rest⟩

theorem dropWhile_ne_of_mem {name : String} {names : List String} (member : name ∈ names) :
    ∃ after, names.dropWhile (· ≠ name) = name :: after := by
  have stops := List.head?_dropWhile_not (fun other => decide (other ≠ name)) names
  cases left : names.dropWhile (· ≠ name) with
  | nil => simpa using List.dropWhile_eq_nil_iff.1 left name member
  | cons first after =>
    rw [left] at stops
    exact ⟨after, by rw [show first = name by simpa using stops]⟩

namespace Traversal

variable {graph : DependencyGraph} {t : Traversal} {cycle : List String}

/-- The path from a package on the stack up to the innermost one is a cycle when that one depends on
the package. -/
theorem cycleAt_isCycle {finished : List String} {f : Frame} {below : List Frame} {name : String}
    (loopless : graph.Loopless) (stacked : Stacked graph finished none (f :: below))
    (distinct : ((f :: below).map (·.name)).Nodup) (waiting : name ∈ (f :: below).map (·.name))
    (edge : graph.Edge f.name name) : graph.IsCycle (cycleAt (f :: below) name) := by
  have way := List.isChain_reverse.2 stacked.edges
  obtain ⟨after, shape⟩ := dropWhile_ne_of_mem (List.mem_reverse.2 waiting)
  have suffix : name :: after <:+ ((f :: below).map (·.name)).reverse :=
    shape ▸ List.dropWhile_suffix _
  have last : (name :: after).getLast? = some f.name := by
    obtain ⟨before, whole⟩ := suffix
    have top : ((f :: below).map (·.name)).reverse.getLast? = some f.name := by simp
    rw [← whole, List.getLast?_append] at top
    simpa using top
  rw [cycleAt, shape]
  refine ⟨?_, ?_, ?_, ?_⟩
  · -- a single package would depend on itself
    cases after with
    | nil =>
      rw [← show name = f.name by simpa using last] at edge
      exact absurd edge (loopless name)
    | cons next more => simp
  · rw [List.getLast?_concat, List.cons_append, List.head?_cons]
  · rw [List.dropLast_concat]
    exact suffix.sublist.nodup (List.nodup_reverse.2 distinct)
  · rw [List.isChain_append]
    refine ⟨way.suffix suffix, .singleton name, ?_⟩
    intro x isLast y isFirst
    rw [last] at isLast
    cases isLast
    cases isFirst
    exact edge

theorem step_error (loopless : graph.Loopless) (sound : Sound graph t)
    (failed : step graph t = .error cycle) : graph.IsCycle cycle := by
  have stacked := sound.stacked
  have distinct := sound.distinct
  unfold step at failed
  split at failed
  next => cases failed
  next => cases failed
  next name dependency pending below shape =>
    split at failed
    next inProgress =>
      cases failed
      have waiting := (sound.inProgress dependency).1 inProgress
      rw [path, shape] at distinct waiting
      rw [shape] at stacked ⊢
      obtain ⟨passed, whole, _⟩ := stacked.1
      exact cycleAt_isCycle loopless stacked distinct waiting ⟨_, whole, by simp⟩
    next => cases failed
    next => cases failed

theorem run_error (failed : run graph t = .error cycle) (reached : Reached graph t) :
    ∃ u, Reached graph u ∧ step graph u = .error cycle := by
  fun_induction run graph t with
  | case1 t found stepped =>
    cases failed
    exact ⟨t, reached, stepped⟩
  | case2 => cases failed
  | case3 t next stepped ih => exact ih failed (reached.stepped stepped)

theorem runFrom_error {name : String} (failed : runFrom graph t name = .error cycle)
    (reached : Reached graph t) (empty : t.stack = []) :
    ∃ u, Reached graph u ∧ step graph u = .error cycle := by
  unfold runFrom at failed
  split at failed
  next unvisited => exact run_error failed (reached.entered empty unvisited)
  next => cases failed

theorem foldlM_runFrom_error (closed : graph.Closed) {names : List String}
    (failed : names.foldlM (runFrom graph) t = .error cycle) (reached : Reached graph t)
    (empty : t.stack = []) (known : ∀ name ∈ names, name ∈ graph.keys) :
    ∃ u, Reached graph u ∧ step graph u = .error cycle := by
  induction names generalizing t with
  | nil => cases failed
  | cons first rest ih =>
    rw [List.foldlM_cons] at failed
    cases run : runFrom graph t first with
    | error found =>
      rw [run] at failed
      cases failed
      exact runFrom_error run reached empty
    | ok v =>
      rw [run] at failed
      obtain ⟨between, cleared, _⟩ :=
        runFrom_ok closed run reached empty (known first List.mem_cons_self)
      exact ih failed between cleared fun name member => known name (List.mem_cons_of_mem first member)

end Traversal

theorem postOrder_error {graph : DependencyGraph} (closed : graph.Closed)
    (loopless : graph.Loopless) {cycle : List String} (failed : postOrder graph = .error cycle) :
    graph.IsCycle cycle := by
  unfold postOrder at failed
  cases run : graph.keys.foldlM (Traversal.runFrom graph) (Traversal.start graph.keys) with
  | error found =>
    rw [run] at failed
    cases failed
    obtain ⟨t, reached, stepped⟩ :=
      Traversal.foldlM_runFrom_error closed run .start rfl fun _ member => member
    exact Traversal.step_error loopless (reached.sound closed) stepped
  | ok t =>
    rw [run] at failed
    cases failed

theorem not_cyclic_of_postOrder {graph : DependencyGraph} (closed : graph.Closed)
    {names : List String} (returned : postOrder graph = .ok names) : ¬graph.Cyclic := by
  obtain ⟨once, all, ordered⟩ := postOrder_ok closed returned
  rintro ⟨package, way⟩
  obtain ⟨_, edge, _⟩ := Relation.TransGen.head'_iff.1 way
  have member : package ∈ names.reverse := List.mem_reverse.2 ((all package).2 edge.source)
  exact ordered.not_transGen_self (List.nodup_reverse.2 once) member way

theorem order_error {root : PackageNode} {selected : List PackageNode} {infos : List PackageInfo}
    {failure : Failure} (failed : order root selected infos = .error failure) :
    ∃ cycle, failure = .dependencyCycle cycle ∧ (graph selected infos).IsCycle cycle := by
  unfold order at failed
  split at failed
  next cycle run =>
    cases failed
    exact ⟨cycle, rfl,
      postOrder_error (closed_graph selected infos) (loopless_graph selected infos) run⟩
  next => cases failed

/-- There is no order exactly if the selected packages depend on each other in a cycle. What is
reported then is a cycle: it ends with the package it begins with, no other is met twice, and each
depends on the next. -/
theorem order_error_iff_cyclic (root : PackageNode) (selected : List PackageNode)
    (infos : List PackageInfo) :
    ((∃ cycle, order root selected infos = .error (.dependencyCycle cycle)) ↔
        (graph selected infos).Cyclic) ∧
      ∀ failure, order root selected infos = .error failure →
        ∃ cycle, failure = .dependencyCycle cycle ∧ (graph selected infos).IsCycle cycle := by
  refine ⟨⟨?_, ?_⟩, fun _ => order_error⟩
  · rintro ⟨cycle, failed⟩
    obtain ⟨found, _, isCycle⟩ := order_error failed
    exact isCycle.cyclic
  · intro cyclic
    cases run : order root selected infos with
    | error failure =>
      obtain ⟨cycle, rfl, _⟩ := order_error run
      exact ⟨cycle, rfl⟩
    | ok result =>
      obtain ⟨names, returned, _⟩ := order_ok run
      exact absurd cyclic (not_cyclic_of_postOrder (closed_graph selected infos) returned)

/-- The first package is not in the cycle that it leads to, and neither is the root. -/
theorem order_error_iff_cyclic_sample :
    let selected := ["", "a", "b", "c", "d"].map PackageNode.ofPath
    let infos : List PackageInfo := [⟨"//a", [], ["//b"], [], "", ""⟩,
      ⟨"//b:lib", [], ["//d", "//c:lib"], [], "", ""⟩, ⟨"//c", [], ["//b"], [], "", ""⟩]
    order (PackageNode.ofPath "") selected infos =
        .error (.dependencyCycle ["//b", "//c", "//b"]) ∧
      (graph selected infos).Cyclic ∧
      (graph selected infos).IsCycle ["//b", "//c", "//b"] := by
  intro selected infos
  have failed : order (PackageNode.ofPath "") selected infos =
      .error (.dependencyCycle ["//b", "//c", "//b"]) := by
    have reported : postOrder (graph selected infos) = .error ["//b", "//c", "//b"] := by
      decide +kernel
    rw [order, reported]
  obtain ⟨iff, cycles⟩ := order_error_iff_cyclic (PackageNode.ofPath "") selected infos
  obtain ⟨cycle, same, isCycle⟩ := cycles _ failed
  cases same
  exact ⟨failed, iff.1 ⟨_, failed⟩, isCycle⟩

end ImportOrder

end WorkspaceImport
