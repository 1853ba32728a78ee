import WorkspaceImport.Proofs.ImportOrder.Cycle
import Mathlib.Order.Lattice.Nat
/-!
How the order of an import keeps to the selection. The traversal starts from the selected packages in
their order, and each start finishes all that it reaches and that no earlier start has reached. So a
package stands where the first selected package that leads to it puts it.
-/
namespace WorkspaceImport.ImportOrder

open Relation (ReflTransGen)

namespace Traversal

variable {graph : DependencyGraph} {t u : Traversal} {package : String} {names : List String}

theorem Sound.visited_of_steps (sound : Sound graph t) (steps : Steps graph t u)
    (visited : u.Visited package) :
    t.Visited package ∨ ∃ top, t.Visited top ∧ graph.Edge top package := by
  cases steps with
  | finish shape =>
    left
    rw [Visited, path, shape]
    rcases visited with waiting | finished
    · exact .inl (List.mem_cons_of_mem _ waiting)
    · rcases List.mem_cons.1 finished with rfl | earlier
      · exact .inl List.mem_cons_self
      · exact .inr earlier
  | @enter top dependency pending below shape _ =>
    have whole : t.path = top :: below.map (·.name) := by rw [path, shape, List.map_cons]
    rcases visited with waiting | finished
    · rcases List.mem_cons.1 waiting with rfl | before
      · exact .inr ⟨top, .inl (whole ▸ List.mem_cons_self), sound.edge shape⟩
      · exact .inl (.inl (whole ▸ before))
    · exact .inl (.inr finished)
  | pass shape =>
    left
    rw [Visited, path, shape]
    exact visited

theorem Steps.finished_suffix (steps : Steps graph t u) : t.finished <:+ u.finished := by
  cases steps with
  | finish => exact List.suffix_cons _ _
  | enter => exact List.suffix_refl _
  | pass => exact List.suffix_refl _

theorem mem_finished_iff (closed : graph.Closed) (known : ∀ name ∈ names, name ∈ graph.keys)
    (returned : names.foldlM (runFrom graph) (start graph.keys) = .ok t) :
    package ∈ t.finished ↔ ∃ first ∈ names, ReflTransGen graph.Edge first package := by
  obtain ⟨reached, _, all⟩ := foldlM_runFrom_ok closed returned .start rfl known
  constructor
  · intro finished
    let Led (t : Traversal) : Prop := ∀ name, t.Visited name →
      ∃ first ∈ names, ReflTransGen graph.Edge first name
    have led : Led t := by
      refine foldlM_runFrom_keeps closed ?_ ?_ returned .start rfl known ?_
      · intro t u reached steps before name visited
        rcases (reached.sound closed).visited_of_steps steps visited with earlier | ⟨top, on, edge⟩
        · exact before name earlier
        · obtain ⟨first, member, way⟩ := before top on
          exact ⟨first, member, way.tail edge⟩
      · intro t first member before name visited
        rcases visited with waiting | finished
        · rcases List.mem_cons.1 waiting with rfl | earlier
          · exact ⟨name, member, .refl⟩
          · exact before name (.inl earlier)
        · exact before name (.inr finished)
      · rintro name (waiting | finished)
        · cases waiting
        · cases finished
    exact led package (.inr finished)
  · rintro ⟨first, member, way⟩
    exact (reached.sound closed).ordered.mem_of_reflTransGen (all first (.inl member)) way

end Traversal

theorem sublist_of_reached {graph : DependencyGraph} (closed : graph.Closed)
    {front back result : List String} (keys : graph.keys = front ++ back)
    (returned : postOrder graph = .ok result) {x y : String}
    (early : ∃ first ∈ front, ReflTransGen graph.Edge first x)
    (late : ¬∃ first ∈ front, ReflTransGen graph.Edge first y) (known : y ∈ graph.keys) :
    [x, y].Sublist result := by
  obtain ⟨t, ran, rfl⟩ := traversal_of_postOrder returned
  have everywhere : y ∈ t.finished :=
    (Traversal.mem_finished_iff closed (fun _ member => member) ran).2 ⟨y, known, .refl⟩
  rw [keys, List.foldlM_append, ← keys, except_bind_eq_ok] at ran
  obtain ⟨s, halfway, others⟩ := ran
  have inFront : ∀ name ∈ front, name ∈ graph.keys :=
    fun name member => keys ▸ List.mem_append_left back member
  have inBack : ∀ name ∈ back, name ∈ graph.keys :=
    fun name member => keys ▸ List.mem_append_right front member
  obtain ⟨reached, empty, _⟩ := Traversal.foldlM_runFrom_ok closed halfway .start rfl inFront
  have done : x ∈ s.finished := (Traversal.mem_finished_iff closed inFront halfway).2 early
  have missing : y ∉ s.finished := mt (Traversal.mem_finished_iff closed inFront halfway).1 late
  obtain ⟨later, whole⟩ : s.finished <:+ t.finished :=
    Traversal.foldlM_runFrom_keeps closed (J := fun t => s.finished <:+ t.finished)
      (fun _ _ _ steps before => before.trans steps.finished_suffix)
      (fun _ _ _ before => before) others reached empty inBack (List.suffix_refl _)
  rw [← whole] at everywhere ⊢
  have after : y ∈ later := (List.mem_append.1 everywhere).resolve_right missing
  rw [List.reverse_append]
  exact (List.singleton_sublist.2 (List.mem_reverse.2 done)).append
    (List.singleton_sublist.2 (List.mem_reverse.2 after))

/-- The places in the selection of the package itself and of those that depend on it, directly or by
way of others. -/
def leads (selected : List PackageNode) (infos : List PackageInfo) (package : String) : Set Nat :=
  {place | ∃ first, (selectedNames selected)[place]? = some first ∧
    ReflTransGen (graph selected infos).Edge first package}

/-- The first of these places. -/
noncomputable def lead (selected : List PackageNode) (infos : List PackageInfo) (package : String) :
    Nat :=
  sInf (leads selected infos package)

section Lead

variable {selected : List PackageNode} {infos : List PackageInfo} {package : String}

theorem lead_lt_iff (member : package ∈ selectedNames selected) {place : Nat} :
    lead selected infos package < place ↔ ∃ first ∈ (selectedNames selected).take place,
      ReflTransGen (graph selected infos).Edge first package := by
  constructor
  · intro before
    obtain ⟨own, found⟩ := List.mem_iff_getElem?.1 member
    have nonempty : (leads selected infos package).Nonempty := ⟨own, package, found, .refl⟩
    obtain ⟨first, there, way⟩ : lead selected infos package ∈ leads selected infos package :=
      Nat.sInf_mem nonempty
    have inside : ((selectedNames selected).take place)[lead selected infos package]? = some first := by
      rw [List.getElem?_take, if_pos before]
      exact there
    exact ⟨first, List.mem_of_getElem? inside, way⟩
  · rintro ⟨first, inside, way⟩
    obtain ⟨earlier, found⟩ := List.mem_iff_getElem?.1 inside
    rw [List.getElem?_take] at found
    split at found
    next before => exact Nat.lt_of_le_of_lt (Nat.sInf_le ⟨first, found, way⟩) before
    next => cases found

theorem eq_of_reflTransGen {graph : DependencyGraph} {first top : String}
    (alone : ∀ other, ¬graph.Edge other top) (way : ReflTransGen graph.Edge first top) :
    first = top := by
  rcases way.cases_tail with same | ⟨other, _, edge⟩
  · exact same.symm
  · exact absurd edge (alone other)

theorem lead_lt_of_sublist {x y : String} (selection : [x, y].Sublist (selectedNames selected))
    (top : ∀ other, ¬(graph selected infos).Edge other y) :
    lead selected infos x < lead selected infos y := by
  obtain ⟨front, back, whole, before, after⟩ := List.cons_sublist_iff.1 selection
  have later : y ∈ back := List.singleton_sublist.1 after
  have taken : (selectedNames selected).take front.length = front := by rw [whole, List.take_left]
  have early : lead selected infos x < front.length := by
    rw [lead_lt_iff (selection.subset (by simp)), taken]
    exact ⟨x, before, .refl⟩
  have late : ¬lead selected infos y < front.length := by
    rw [lead_lt_iff (selection.subset (by simp)), taken]
    rintro ⟨first, inFront, way⟩
    rw [eq_of_reflTransGen top way] at inFront
    have once : (selectedNames selected).Nodup := nodup_eraseDups _
    rw [whole] at once
    exact (List.nodup_append.1 once).2.2 y inFront y later rfl
  omega

end Lead

/-- Where the selected packages do not depend on each other in a cycle, the order of an import keeps
to the selection: of two packages the one stands first that is led to from an earlier place. So a
package on which no other one depends stands behind all that were selected before it, and packages of
this kind keep their order. -/
theorem order_stable (root : PackageNode) (selected : List PackageNode) (infos : List PackageInfo)
    (acyclic : ¬(graph selected infos).Cyclic) :
    ∃ rest, order root selected infos = .ok (root :: rest) ∧ (rest.map (·.name)).Nodup ∧
      (∀ x ∈ selectedNames selected, ∀ y ∈ selectedNames selected,
        lead selected infos x < lead selected infos y → [x, y].Sublist (rest.map (·.name))) ∧
      ∀ x y, [x, y].Sublist (selectedNames selected) →
        (∀ other, ¬(graph selected infos).Edge other y) → [x, y].Sublist (rest.map (·.name)) := by
  have closed := closed_graph selected infos
  cases returned : order root selected infos with
  | error failure =>
    obtain ⟨cycle, _, isCycle⟩ := order_error returned
    exact absurd isCycle.cyclic acyclic
  | ok result =>
    obtain ⟨names, ran, rfl⟩ := order_ok returned
    have same := map_name_of_postOrder ran
    have stable (x y : String) (first : x ∈ selectedNames selected)
        (second : y ∈ selectedNames selected)
        (leads : lead selected infos x < lead selected infos y) : [x, y].Sublist names := by
      -- Cut at the lead of the second one, the selection has something before the cut that leads to the
      -- first one, and nothing that leads to the second.
      have split : (graph selected infos).keys =
          (selectedNames selected).take (lead selected infos y) ++
            (selectedNames selected).drop (lead selected infos y) := by
        rw [List.take_append_drop, keys_graph_eq]
      have known : y ∈ (graph selected infos).keys := keys_graph_eq selected infos ▸ second
      refine sublist_of_reached closed split ran ((lead_lt_iff first).1 leads) ?_ known
      rw [← lead_lt_iff second]
      exact lt_irrefl _
    refine ⟨nodesOf selected names, rfl, ?_, ?_, ?_⟩
    · rw [same]
      exact (postOrder_ok closed ran).1
    · rw [same]
      exact fun x first y second => stable x y first second
    · rw [same]
      intro x y selection top
      exact stable x y (selection.subset (by simp)) (selection.subset (by simp))
        (lead_lt_of_sublist selection top)

/-- The package that is selected last is led to from the first one, and so it stands before the second
one, on which no other package depends. -/
theorem order_stable_sample :
    let selected := ["a", "b", "", "a", "d", "c"].map PackageNode.ofPath
    let infos : List PackageInfo := [⟨"//a", [], ["//d", "//c:lib"], [], "", ""⟩,
      ⟨"//b:lib", [], ["//c"], [], "", ""⟩, ⟨"//c", [], ["//d:lib"], [], "", ""⟩]
    lead selected infos "//c" < lead selected infos "//b" ∧
      ∃ rest, order (PackageNode.ofPath "") selected infos = .ok (PackageNode.ofPath "" :: rest) ∧
        ["//c", "//b"].Sublist (rest.map (·.name)) ∧
        ["//a", "//b"].Sublist (rest.map (·.name)) := by
  intro selected infos
  have returned : postOrder (graph selected infos) = .ok ["//d", "//c", "//a", "//b"] := by
    decide +kernel
  have acyclic := not_cyclic_of_postOrder (closed_graph selected infos) returned
  have names : selectedNames selected = ["//a", "//b", "//d", "//c"] := by decide +kernel
  have edge : (graph selected infos).Edge "//a" "//c" :=
    ⟨["//d", "//c"], by decide +kernel, by decide⟩
  have top : ∀ other, ¬(graph selected infos).Edge other "//b" := by
    rintro other ⟨dependencies, found, member⟩
    have nowhere : ∀ e ∈ (graph selected infos).entries, "//b" ∉ e.2 := by decide +kernel
    exact nowhere _ (OrderedMap.get?_eq_some_iff.1 found) member
  have leads : lead selected infos "//c" < lead selected infos "//b" := by
    have early : lead selected infos "//c" < 1 := by
      rw [lead_lt_iff (by simp [names]), names]
      exact ⟨"//a", List.mem_singleton.2 rfl, .single edge⟩
    have late : ¬lead selected infos "//b" < 1 := by
      rw [lead_lt_iff (by simp [names]), names]
      rintro ⟨first, inside, way⟩
      rw [eq_of_reflTransGen top way] at inside
      exact absurd inside (by decide)
    omega
  obtain ⟨rest, whole, _, stable, tops⟩ :=
    order_stable (PackageNode.ofPath "") selected infos acyclic
  refine ⟨leads, rest, whole, stable _ (by simp [names]) _ (by simp [names]) leads, tops _ _ ?_ top⟩
  rw [names]
  decide

end WorkspaceImport.ImportOrder
