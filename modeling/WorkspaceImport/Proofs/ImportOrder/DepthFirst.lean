import WorkspaceImport.Proofs.ImportOrder.Cycle
import Mathlib.Data.Finset.Card
/-!
The order of an import as a recursion: whoever visits a package visits what it depends on first, and
then emits it. The recursion comes to an end where no package depends on itself in the end, and there
the traversal, which keeps a stack of its own, emits the same packages in the same order.
-/
namespace WorkspaceImport

namespace DependencyGraph

variable {graph : DependencyGraph} {package dependency : String}

theorem wellFounded_edge (acyclic : ¬graph.Cyclic) :
    WellFounded fun dependency package => graph.Edge package dependency := by
  classical
  -- fewer packages are reached from a dependency, since no way leads back from it
  let reached (package : String) : Finset String :=
    graph.keys.toFinset.filter fun other => Relation.ReflTransGen graph.Edge package other
  refine Subrelation.wf ?_ (InvImage.wf (fun package => (reached package).card) wellFounded_lt)
  intro dependency package edge
  apply Finset.card_lt_card
  rw [Finset.ssubset_iff_of_subset]
  · refine ⟨package, ?_, ?_⟩
    · exact Finset.mem_filter.2 ⟨List.mem_toFinset.2 edge.source, .refl⟩
    · intro back
      exact acyclic ⟨package, .head' edge (Finset.mem_filter.1 back).2⟩
  · intro other member
    obtain ⟨known, way⟩ := Finset.mem_filter.1 member
    exact Finset.mem_filter.2 ⟨known, way.head edge⟩

/-- How far the recursion has got: the packages that were visited, and those that were emitted, the
last one at the end. -/
structure Visit where
  visited : List String
  emitted : List String

/-- A package that was not visited yet is emitted after a visit to each of its dependencies. -/
def visit (graph : DependencyGraph) (acyclic : ¬graph.Cyclic) (v : Visit) (package : String) :
    Visit :=
  if package ∈ v.visited then v
  else
    let after := (graph.dependencies package).attach.foldl
      (fun v dependency => visit graph acyclic v dependency.1)
      ⟨package :: v.visited, v.emitted⟩
    ⟨after.visited, after.emitted ++ [package]⟩
termination_by (wellFounded_edge acyclic).wrap package
decreasing_by exact mem_dependencies.1 dependency.2

/-- All packages of a graph, as the recursion emits them. -/
def depthFirst (graph : DependencyGraph) (acyclic : ¬graph.Cyclic) (packages : List String) :
    List String :=
  (packages.foldl (graph.visit acyclic) ⟨[], []⟩).emitted

theorem visit_of_mem (acyclic : ¬graph.Cyclic) {v : Visit} (visited : package ∈ v.visited) :
    graph.visit acyclic v package = v := by
  rw [visit, if_pos visited]

theorem visit_of_not_mem (acyclic : ¬graph.Cyclic) {v : Visit} (fresh : package ∉ v.visited) :
    graph.visit acyclic v package =
      let after := (graph.dependencies package).foldl (graph.visit acyclic)
        ⟨package :: v.visited, v.emitted⟩
      ⟨after.visited, after.emitted ++ [package]⟩ := by
  rw [visit, if_neg fresh, List.foldl_attach]

theorem mem_visited_foldl (acyclic : ¬graph.Cyclic) {name : String} {packages : List String}
    (kept : ∀ package ∈ packages, ∀ v : Visit, name ∈ v.visited →
      name ∈ (graph.visit acyclic v package).visited)
    {v : Visit} (visited : name ∈ v.visited) :
    name ∈ (packages.foldl (graph.visit acyclic) v).visited := by
  induction packages generalizing v with
  | nil => exact visited
  | cons first rest ih =>
    exact ih (fun package member => kept package (List.mem_cons_of_mem first member))
      (kept first List.mem_cons_self v visited)

theorem mem_visited_visit (acyclic : ¬graph.Cyclic) {name : String} {v : Visit}
    (visited : name ∈ v.visited) : name ∈ (graph.visit acyclic v package).visited := by
  induction package using (wellFounded_edge acyclic).induction generalizing v with
  | _ package ih =>
    by_cases met : package ∈ v.visited
    · rw [visit_of_mem acyclic met]
      exact visited
    · rw [visit_of_not_mem acyclic met]
      exact mem_visited_foldl acyclic
        (fun dependency member _ visited => ih dependency (mem_dependencies.1 member) visited)
        (List.mem_cons_of_mem package visited)

end DependencyGraph

namespace ImportOrder

namespace Traversal

open DependencyGraph (Visit)

variable {graph : DependencyGraph} {t u : Traversal} {v : Visit} {package : String}

/-- A traversal has entered and finished what the recursion has visited and emitted. -/
structure Agrees (graph : DependencyGraph) (t : Traversal) (v : Visit) : Prop where
  unvisited : ∀ name ∈ graph.keys, t.marks.get? name = some .unvisited ↔ name ∉ v.visited
  emitted : t.finished.reverse = v.emitted

/-- A traversal that succeeds in the end gets there by way of a moment that agrees with a visit, and
has a given stack then. -/
def Follows (graph : DependencyGraph) (t : Traversal) (stack : List Frame) (v : Visit) : Prop :=
  ∀ u, run graph t = .ok u →
    ∃ t', run graph t' = .ok u ∧ t'.stack = stack ∧ Agrees graph t' v

theorem Agrees.restack (agrees : Agrees graph t v) (stack : List Frame) :
    Agrees graph { t with stack := stack } v :=
  ⟨agrees.unvisited, agrees.emitted⟩

theorem Agrees.enter (agrees : Agrees graph t v) (package : String) :
    Agrees graph (enter graph package t) ⟨package :: v.visited, v.emitted⟩ where
  unvisited name known := by
    simp only [Traversal.enter, OrderedMap.get?_insert, List.mem_cons, not_or]
    by_cases same : package = name
    · simp [same]
    · have differ : ¬name = package := fun h => same h.symm
      simpa only [if_neg same, differ, not_false_eq_true, true_and] using agrees.unvisited name known
  emitted := agrees.emitted

theorem Follows.trans {stack stack' : List Frame} {v' : Visit} (first : Follows graph t stack v)
    (second : ∀ t', t'.stack = stack → Agrees graph t' v → Follows graph t' stack' v') :
    Follows graph t stack' v' := by
  intro u returned
  obtain ⟨t', later, shape, agrees⟩ := first u returned
  exact second t' shape agrees u later

theorem Agrees.finishes (agrees : Agrees graph t v) {below : List Frame}
    (shape : t.stack = ⟨package, []⟩ :: below) (visited : package ∈ v.visited) :
    Follows graph t below ⟨v.visited, v.emitted ++ [package]⟩ := by
  intro u returned
  obtain ⟨next, steps, later⟩ := exists_steps_of_run (by simp [shape]) returned
  cases steps with
  | @finish name below' shape' =>
    rw [shape] at shape'
    cases shape'
    refine ⟨_, later, rfl, ?_, ?_⟩
    · intro name known
      simp only [OrderedMap.get?_insert]
      by_cases same : package = name
      · simp [← same, visited]
      · simpa only [if_neg same] using agrees.unvisited name known
    · rw [List.reverse_cons, agrees.emitted]
  | enter shape' =>
    rw [shape] at shape'
    cases shape'
  | pass shape' =>
    rw [shape] at shape'
    cases shape'

/-- The innermost frame looks at its dependencies one after the other; each is entered and finished
as the recursion visits it. -/
theorem Agrees.passes (acyclic : ¬graph.Cyclic) {pending : List String} {below : List Frame}
    (known : ∀ dependency ∈ pending, dependency ∈ graph.keys)
    (visits : ∀ dependency ∈ pending, ∀ t v, Agrees graph t v →
      t.marks.get? dependency = some .unvisited →
      Follows graph (Traversal.enter graph dependency t) t.stack (graph.visit acyclic v dependency))
    (agrees : Agrees graph t v) (shape : t.stack = ⟨package, pending⟩ :: below) :
    Follows graph t (⟨package, []⟩ :: below) (pending.foldl (graph.visit acyclic) v) := by
  induction pending generalizing t v with
  | nil => exact fun u returned => ⟨t, returned, shape, agrees⟩
  | cons dependency rest ih =>
    have others {t' : Traversal} {v' : Visit} (shape' : t'.stack = ⟨package, rest⟩ :: below)
        (agrees' : Agrees graph t' v') :
        Follows graph t' (⟨package, []⟩ :: below) (rest.foldl (graph.visit acyclic) v') :=
      ih (fun other later => known other (List.mem_cons_of_mem dependency later))
        (fun other later => visits other (List.mem_cons_of_mem dependency later)) agrees' shape'
    have mark := agrees.unvisited dependency (known dependency List.mem_cons_self)
    rw [List.foldl_cons]
    intro u returned
    obtain ⟨next, steps, later⟩ := exists_steps_of_run (by simp [shape]) returned
    cases steps with
    | finish shape' =>
      rw [shape] at shape'
      cases shape'
    | enter shape' unvisited =>
      rw [shape] at shape'
      cases shape'
      have entered := visits dependency List.mem_cons_self
        { t with stack := ⟨package, rest⟩ :: below } v (agrees.restack _) unvisited
      exact entered.trans (fun t' => others) u later
    | pass shape' visited =>
      rw [shape] at shape'
      cases shape'
      -- The recursion passes it too, since both have met the same packages.
      have met : dependency ∈ v.visited := not_not.1 fun new => visited (mark.2 new)
      rw [DependencyGraph.visit_of_mem acyclic met]
      exact others rfl (agrees.restack _) u later

theorem Agrees.visits (closed : graph.Closed) (acyclic : ¬graph.Cyclic)
    (known : package ∈ graph.keys) (agrees : Agrees graph t v)
    (unvisited : t.marks.get? package = some .unvisited) :
    Follows graph (Traversal.enter graph package t) t.stack (graph.visit acyclic v package) := by
  induction package using (DependencyGraph.wellFounded_edge acyclic).induction generalizing t v with
  | _ package ih =>
    have new : package ∉ v.visited := (agrees.unvisited package known).1 unvisited
    rw [DependencyGraph.visit_of_not_mem acyclic new]
    have edges : ∀ dependency ∈ graph.dependencies package, graph.Edge package dependency :=
      fun _ => DependencyGraph.mem_dependencies.1
    have within : ∀ dependency ∈ graph.dependencies package, dependency ∈ graph.keys :=
      fun dependency member => closed package dependency (edges dependency member)
    have entered : (Traversal.enter graph package t).stack =
        ⟨package, graph.dependencies package⟩ :: t.stack := rfl
    have passed := (agrees.enter package).passes acyclic within
      (fun dependency member t v agrees =>
        ih dependency (edges dependency member) (within dependency member) agrees) entered
    refine passed.trans fun t' shape agrees' => agrees'.finishes shape ?_
    exact DependencyGraph.mem_visited_foldl acyclic
      (fun _ _ _ => DependencyGraph.mem_visited_visit acyclic) List.mem_cons_self

theorem Agrees.runFrom (closed : graph.Closed) (acyclic : ¬graph.Cyclic)
    (known : package ∈ graph.keys) (agrees : Agrees graph t v) (empty : t.stack = [])
    (returned : Traversal.runFrom graph t package = .ok u) :
    u.stack = [] ∧ Agrees graph u (graph.visit acyclic v package) := by
  unfold Traversal.runFrom at returned
  split at returned
  next unvisited =>
    obtain ⟨t', ended, cleared, agrees'⟩ :=
      agrees.visits closed acyclic known unvisited u returned
    rw [empty] at cleared
    rw [run_of_empty graph cleared] at ended
    cases ended
    exact ⟨cleared, agrees'⟩
  next visited =>
    cases returned
    have met : package ∈ v.visited := not_not.1 fun new => visited ((agrees.unvisited _ known).2 new)
    rw [DependencyGraph.visit_of_mem acyclic met]
    exact ⟨empty, agrees⟩

theorem Agrees.foldlM (closed : graph.Closed) (acyclic : ¬graph.Cyclic)
    {packages : List String} (known : ∀ package ∈ packages, package ∈ graph.keys)
    (agrees : Agrees graph t v) (empty : t.stack = [])
    (returned : packages.foldlM (Traversal.runFrom graph) t = .ok u) :
    Agrees graph u (packages.foldl (graph.visit acyclic) v) := by
  induction packages generalizing t v with
  | nil =>
    cases returned
    exact agrees
  | cons first rest ih =>
    rw [List.foldlM_cons, except_bind_eq_ok] at returned
    obtain ⟨between, ran, others⟩ := returned
    obtain ⟨cleared, agrees'⟩ :=
      agrees.runFrom closed acyclic (known first List.mem_cons_self) empty ran
    exact ih (fun package later => known package (List.mem_cons_of_mem first later)) agrees'
      cleared others

theorem agrees_start (graph : DependencyGraph) : Agrees graph (start graph.keys) ⟨[], []⟩ where
  unvisited name known := by
    have marks : (start graph.keys).marks.get? name =
        if name ∈ graph.keys then some .unvisited else none :=
      OrderedMap.get?_ofList_map graph.nodup _ name
    simp [marks, known]
  emitted := rfl

end Traversal

theorem postOrder_eq_depthFirst {graph : DependencyGraph} (closed : graph.Closed)
    (loopless : graph.Loopless) (acyclic : ¬graph.Cyclic) :
    postOrder graph = .ok (graph.depthFirst acyclic graph.keys) := by
  cases returned : postOrder graph with
  | error cycle => exact absurd (postOrder_error closed loopless returned).cyclic acyclic
  | ok names =>
    obtain ⟨t, ran, rfl⟩ := traversal_of_postOrder returned
    have agrees := (Traversal.agrees_start graph).foldlM closed acyclic (fun _ member => member) rfl ran
    rw [agrees.emitted, DependencyGraph.depthFirst]

/-- Where the selected packages do not depend on each other in a cycle, there is an order of them:
behind the root stand the packages as the recursion emits them that visits the selected packages, each
once and in the order of the selection. -/
theorem order_eq_depthFirst (root : PackageNode) (selected : List PackageNode)
    (infos : List PackageInfo) (acyclic : ¬(graph selected infos).Cyclic) :
    ∃ rest, order root selected infos = .ok (root :: rest) ∧
      rest.map (·.name) = (graph selected infos).depthFirst acyclic (selectedNames selected) := by
  have emitted := postOrder_eq_depthFirst (closed_graph selected infos)
    (loopless_graph selected infos) acyclic
  rw [keys_graph_eq] at emitted
  exact ⟨nodesOf selected _, by rw [order, emitted]; rfl, map_name_of_postOrder emitted⟩

/-- Two packages depend on a third one, which is selected last and depends on a fourth one. -/
theorem order_eq_depthFirst_sample :
    let selected := ["a", "b", "", "a", "d", "c"].map PackageNode.ofPath
    let infos : List PackageInfo := [⟨"//a", [], ["//d", "//c:lib"], [], "", ""⟩,
      ⟨"//b:lib", [], ["//c"], [], "", ""⟩, ⟨"//c", [], ["//d:lib"], [], "", ""⟩]
    ∃ acyclic : ¬(graph selected infos).Cyclic,
      (graph selected infos).depthFirst acyclic (selectedNames selected) =
        ["//d", "//c", "//a", "//b"] := by
  intro selected infos
  have returned : postOrder (graph selected infos) = .ok ["//d", "//c", "//a", "//b"] := by
    decide +kernel
  have acyclic := not_cyclic_of_postOrder (closed_graph selected infos) returned
  obtain ⟨rest, whole, names⟩ :=
    order_eq_depthFirst (PackageNode.ofPath "") selected infos acyclic
  refine ⟨acyclic, ?_⟩
  rw [← names]
  rw [order, returned] at whole
  cases whole
  decide +kernel

end ImportOrder

end WorkspaceImport
