import WorkspaceImport.Proofs.ImportOrder.Order
import Mathlib.Data.List.Sort
/-!
What the dependency graph takes from the records, and what it does not see: the order and the keys of
the records, and how often and in which order a record names what it depends on. An order of an
import, or the cycle that is reported in its place, depends on the records only by way of the graph.
-/
namespace WorkspaceImport

/-- Two records that differ at most in how their dependencies are listed. -/
structure PackageInfo.Relists (info info' : PackageInfo) : Prop where
  same : info' = { info with dependencies := info'.dependencies }
  dependencies : ∀ label, label ∈ info.dependencies ↔ label ∈ info'.dependencies

/-- The same records, in another order, under other keys, or with other lists of the same
dependencies. -/
inductive Records.Rearranges : Records → Records → Prop where
  | permuted {infos infos' : Records} (entries : infos.entries.Perm infos'.entries) :
      Rearranges infos infos'
  | rekeyed {infos infos' : Records} (values : infos.values = infos'.values) :
      Rearranges infos infos'
  | relisted {infos infos' : Records} (keys : infos.keys = infos'.keys)
      (values : List.Forall₂ PackageInfo.Relists infos.values infos'.values) :
      Rearranges infos infos'
  | followed {infos infos' infos'' : Records} (first : Rearranges infos infos')
      (second : Rearranges infos' infos'') : Rearranges infos infos''

theorem PackageInfo.Relists.package {info info' : PackageInfo} (relists : info.Relists info') :
    info'.package = info.package := by
  rw [relists.same]
  rfl

namespace ImportOrder

section Congruence

variable {selected : List PackageNode} {package dependency : String}

theorem dependsOn_cons (info : PackageInfo) (rest : List PackageInfo) :
    DependsOn (info :: rest) package dependency ↔
      (info.package = package ∧ ∃ label ∈ info.dependencies, packageOf label = dependency) ∨
        DependsOn rest package dependency := by
  simp [DependsOn]

theorem dependsOn_of_relists {infos infos' : List PackageInfo}
    (relisted : List.Forall₂ PackageInfo.Relists infos infos') :
    DependsOn infos package dependency ↔ DependsOn infos' package dependency := by
  induction relisted with
  | nil => rfl
  | cons first _ ih => simp only [dependsOn_cons, first.package, first.dependencies, ih]

theorem dependsOn_of_rearranges {infos infos' : Records} (rearranges : infos.Rearranges infos') :
    DependsOn infos.values package dependency ↔ DependsOn infos'.values package dependency := by
  induction rearranges with
  | permuted entries =>
    have values := entries.map (·.2)
    simp only [DependsOn, OrderedMap.values, values.mem_iff]
  | rekeyed values => rw [values]
  | relisted _ values => exact dependsOn_of_relists values
  | followed _ _ first second => exact first.trans second

theorem graph_congr {infos infos' : List PackageInfo}
    (same : ∀ package dependency,
      DependsOn infos package dependency ↔ DependsOn infos' package dependency) :
    graph selected infos = graph selected infos' := by
  apply OrderedMap.ext_get?
  · rw [keys_graph, keys_graph]
  · intro package
    have successors : successors ((packages selected).map (·.name)) infos package =
        successors ((packages selected).map (·.name)) infos' package := by
      apply List.filter_congr
      intro name _
      have reached : name ∈ dependedOn package infos ↔ name ∈ dependedOn package infos' := by
        rw [mem_dependedOn, mem_dependedOn]
        exact same package name
      simp [reached]
    rw [get?_graph, get?_graph, successors]

end Congruence

section Gathering

/-- A record of a package names a label: the package of the label is noted behind those that the first
one is known to depend on, unless it is noted already, or is no other package of the graph. -/
def noteLabel (package : String) (g : DependencyGraph) (label : String) : DependencyGraph :=
  if packageOf label ≠ package ∧ packageOf label ∈ g.keys ∧ packageOf label ∉ g.dependencies package
  then g.insert package (g.dependencies package ++ [packageOf label])
  else g

def noteRecord (g : DependencyGraph) (info : PackageInfo) : DependencyGraph :=
  if info.package ∈ g.keys then info.dependencies.foldl (noteLabel info.package) g else g

def gather (names : List String) (infos : List PackageInfo) : DependencyGraph :=
  infos.foldl noteRecord (OrderedMap.ofList (names.map fun name => (name, [])))

structure Gathers (names : List String) (said : String → String → Prop) (g : DependencyGraph) :
    Prop where
  keys : g.keys = names
  distinct : ∀ package, (g.dependencies package).Nodup
  noted : ∀ package dependency, g.Edge package dependency ↔
    package ∈ names ∧ dependency ∈ names ∧ dependency ≠ package ∧ said package dependency

section Label

variable {g : DependencyGraph} {package label : String}

theorem dependencies_noteLabel (other : String) :
    DependencyGraph.dependencies (noteLabel package g label) other =
      if package = other ∧ packageOf label ≠ package ∧ packageOf label ∈ g.keys ∧
          packageOf label ∉ g.dependencies package
      then g.dependencies package ++ [packageOf label]
      else g.dependencies other := by
  unfold noteLabel
  split
  next new =>
    simp only [new, ne_eq, not_false_eq_true, and_self, and_true]
    rw [DependencyGraph.dependencies, OrderedMap.get?_insert]
    split <;> rfl
  next old => rw [if_neg fun new => old new.2]

theorem keys_noteLabel (known : package ∈ g.keys) : (noteLabel package g label).keys = g.keys := by
  unfold noteLabel
  split
  next => rw [OrderedMap.keys_insert, if_pos known]
  next => rfl

theorem nodup_noteLabel {other : String} (distinct : ∀ p, (g.dependencies p).Nodup) :
    (DependencyGraph.dependencies (noteLabel package g label) other).Nodup := by
  rw [dependencies_noteLabel]
  split
  next new =>
    obtain ⟨_, _, _, absent⟩ := new
    refine List.nodup_append.2 ⟨distinct package, List.nodup_singleton _, ?_⟩
    rintro a member b last rfl
    exact absent (List.mem_singleton.1 last ▸ member)
  next => exact distinct other

theorem edge_noteLabel {p q : String} : (noteLabel package g label).Edge p q ↔
    g.Edge p q ∨ package = p ∧ packageOf label = q ∧ q ≠ package ∧ q ∈ g.keys := by
  rw [← DependencyGraph.mem_dependencies, ← DependencyGraph.mem_dependencies,
    dependencies_noteLabel]
  split
  next new =>
    obtain ⟨rfl, other, known, _⟩ := new
    rw [List.mem_append, List.mem_singleton]
    constructor
    · exact Or.imp_right fun same => ⟨rfl, same.symm, same ▸ other, same ▸ known⟩
    · exact Or.imp_right fun new => new.2.1.symm
  next old =>
    constructor
    · exact .inl
    · rintro (noted | ⟨rfl, rfl, other, known⟩)
      · exact noted
      · by_contra absent
        exact old ⟨rfl, other, known, absent⟩

end Label

variable {names : List String} {said : String → String → Prop} {g : DependencyGraph}

theorem Gathers.label {package : String} (gathers : Gathers names said g)
    (known : package ∈ names) (label : String) :
    Gathers names (fun p q => said p q ∨ package = p ∧ packageOf label = q)
      (noteLabel package g label) := by
  obtain ⟨keys, distinct, noted⟩ := gathers
  refine ⟨?_, fun p => nodup_noteLabel distinct, fun p q => ?_⟩
  · rw [keys_noteLabel (keys ▸ known), keys]
  · rw [edge_noteLabel, noted, keys]
    constructor
    · rintro (⟨source, target, other, before⟩ | ⟨rfl, rfl, other, target⟩)
      · exact ⟨source, target, other, .inl before⟩
      · exact ⟨known, target, other, .inr ⟨rfl, rfl⟩⟩
    · rintro ⟨source, target, other, before | ⟨rfl, rfl⟩⟩
      · exact .inl ⟨source, target, other, before⟩
      · exact .inr ⟨rfl, rfl, other, target⟩

theorem Gathers.congr {said' : String → String → Prop} (gathers : Gathers names said g)
    (same : ∀ p ∈ names, ∀ q, said p q ↔ said' p q) : Gathers names said' g where
  keys := gathers.keys
  distinct := gathers.distinct
  noted p q := by
    rw [gathers.noted]
    exact and_congr_right fun source => by rw [same p source]

theorem Gathers.labels {package : String} (gathers : Gathers names said g)
    (known : package ∈ names) (labels : List String) :
    Gathers names (fun p q => said p q ∨ package = p ∧ ∃ label ∈ labels, packageOf label = q)
      (labels.foldl (noteLabel package) g) := by
  induction labels generalizing said g with
  | nil => exact gathers.congr fun p _ q => by simp
  | cons label rest ih =>
    refine (ih (gathers.label known label)).congr fun p _ q => ?_
    simp [or_assoc, and_or_left]

theorem Gathers.record (gathers : Gathers names said g) (info : PackageInfo) :
    Gathers names (fun p q => said p q ∨
      info.package = p ∧ ∃ label ∈ info.dependencies, packageOf label = q) (noteRecord g info) := by
  unfold noteRecord
  split
  next known => exact gathers.labels (gathers.keys ▸ known) info.dependencies
  next unknown =>
    refine gathers.congr fun p source q => ?_
    have other : info.package ≠ p := by
      rintro rfl
      exact unknown (gathers.keys.symm ▸ source)
    simp [other]

theorem gathers_gather {names : List String} (distinct : names.Nodup) (infos : List PackageInfo) :
    Gathers names (DependsOn infos) (gather names infos) := by
  have start : Gathers names (fun _ _ => False)
      (OrderedMap.ofList (names.map fun name => (name, []))) := by
    have none (package : String) : DependencyGraph.dependencies
        (OrderedMap.ofList (names.map fun name => (name, []))) package = [] := by
      rw [DependencyGraph.dependencies, OrderedMap.get?_ofList_map distinct]
      split <;> rfl
    refine ⟨OrderedMap.keys_ofList_map distinct _, fun package => ?_, fun package dependency => ?_⟩
    · rw [none]
      exact List.nodup_nil
    · rw [← DependencyGraph.mem_dependencies, none]
      simp
  have whole (said : String → String → Prop) (g : DependencyGraph) (gathers : Gathers names said g) :
      Gathers names (fun p q => said p q ∨ DependsOn infos p q) (infos.foldl noteRecord g) := by
    induction infos generalizing said g with
    | nil => exact gathers.congr fun p _ q => by simp [DependsOn]
    | cons info rest ih =>
      refine (ih _ _ (gathers.record info)).congr fun p _ q => ?_
      rw [dependsOn_cons, or_assoc]
  exact (whole _ _ start).congr fun p _ q => by simp

theorem pairwise_idxOf {names : List String} (distinct : names.Nodup) :
    names.Pairwise fun earlier later => names.idxOf earlier < names.idxOf later := by
  rw [List.pairwise_iff_getElem]
  intro i j first second before
  rw [distinct.idxOf_getElem i first, distinct.idxOf_getElem j second]
  exact before

/-- The graph as it is read from the records one after the other. At last, what each package depends
on is put in the order of the selection. -/
def gathered (selected : List PackageNode) (infos : List PackageInfo) : DependencyGraph :=
  let names := selectedNames selected
  OrderedMap.ofList (names.map fun name =>
    (name, ((gather names infos).dependencies name).mergeSort fun earlier later =>
      decide (names.idxOf earlier ≤ names.idxOf later)))

theorem graph_eq_gathered (selected : List PackageNode) (infos : List PackageInfo) :
    graph selected infos = gathered selected infos := by
  let names := selectedNames selected
  have distinct : names.Nodup := nodup_eraseDups _
  have gathers := gathers_gather distinct infos
  rw [graph, map_name_packages, gathered]
  congr 1
  apply List.map_congr_left
  intro name member
  congr 1
  -- both lists hold the same names once, and both follow the selection
  have ordered : (successors names infos name).Pairwise fun a b => names.idxOf a ≤ names.idxOf b :=
    ((pairwise_idxOf distinct).filter _).imp Nat.le_of_lt
  have sorted : (((gather names infos).dependencies name).mergeSort fun a b =>
      decide (names.idxOf a ≤ names.idxOf b)).Pairwise fun a b => names.idxOf a ≤ names.idxOf b := by
    refine (List.pairwise_mergeSort ?_ ?_ _).imp of_decide_eq_true
    · intro a b c first second
      exact decide_eq_true ((of_decide_eq_true first).trans (of_decide_eq_true second))
    · intro a b
      simpa using Nat.le_total (names.idxOf a) (names.idxOf b)
  have same : (successors names infos name).Perm ((gather names infos).dependencies name) := by
    have once : (successors names infos name).Nodup := distinct.filter _
    rw [List.perm_ext_iff_of_nodup once (gathers.distinct name)]
    intro dependency
    rw [mem_successors, DependencyGraph.mem_dependencies, gathers.noted]
    exact (and_iff_right member).symm
  refine (same.trans (List.mergeSort_perm _ _).symm).eq_of_pairwise ?_ ordered sorted
  intro a b inside _ before after
  have known : a ∈ names := (mem_successors.1 inside).1
  exact (List.idxOf_inj known).1 (Nat.le_antisymm before after)

end Gathering

/-- The graph of a selection is gathered from the records one after the other. It has an entry for
each selected package, in the order of the selection; beside it stand those of the others that a
record of the package depends on, in the order of the selection as well. To rearrange the records
changes neither the graph nor the order of an import, nor the cycle that is reported where there is
none. -/
theorem graph_of_records (selected : List PackageNode) (infos : Records) :
    graph selected infos.values = gathered selected infos.values ∧
    (graph selected infos.values).keys = selectedNames selected ∧
    (∀ package dependency, (graph selected infos.values).Edge package dependency ↔
      package ∈ selectedNames selected ∧ dependency ∈ selectedNames selected ∧
        dependency ≠ package ∧ DependsOn infos.values package dependency) ∧
    (∀ package dependencies, (graph selected infos.values).get? package = some dependencies →
      dependencies.Pairwise fun earlier later =>
        (selectedNames selected).idxOf earlier < (selectedNames selected).idxOf later) ∧
    ∀ infos', infos.Rearranges infos' →
      graph selected infos'.values = graph selected infos.values ∧
      ∀ root, order root selected infos'.values = order root selected infos.values := by
  refine ⟨graph_eq_gathered selected infos.values, ?_, ?_, ?_, ?_⟩
  · exact keys_graph_eq selected infos.values
  · intro package dependency
    rw [edge_graph_iff, map_name_packages]
  · intro package dependencies found
    rw [get?_graph, map_name_packages] at found
    split at found
    next =>
      cases found
      exact (pairwise_idxOf (nodup_eraseDups _)).filter _
    next => cases found
  · intro infos' rearranges
    have same : graph selected infos'.values = graph selected infos.values :=
      graph_congr fun _ _ => (dependsOn_of_rearranges rearranges).symm
    refine ⟨same, fun root => ?_⟩
    rw [order, order, same]

/-- Two packages that depend on each other, with their records the other way round, under other keys
and with a dependency listed twice: the same cycle is reported. -/
theorem graph_of_records_sample :
    let selected := ["a", "b", "c"].map PackageNode.ofPath
    let ofA (dependencies : List String) : PackageInfo := ⟨"//a", [], dependencies, [], "", ""⟩
    let ofB : PackageInfo := ⟨"//b:lib", [], ["//a:a"], [], "", ""⟩
    let infos : Records := .ofList [("//a:a", ofA ["//c", "//b:lib"]), ("//b:lib", ofB)]
    let infos' : Records := .ofList [("x", ofB), ("y", ofA ["//b:lib", "//c", "//b:lib"])]
    infos.Rearranges infos' ∧
      (graph selected infos.values).get? "//a" = some ["//b", "//c"] ∧
      ["//b", "//c"].Pairwise (fun earlier later =>
        (selectedNames selected).idxOf earlier < (selectedNames selected).idxOf later) ∧
      order (PackageNode.ofPath "") selected infos'.values =
        .error (.dependencyCycle ["//a", "//b", "//a"]) := by
  intro selected ofA ofB infos infos'
  let turned : Records := .ofList [("//b:lib", ofB), ("//a:a", ofA ["//c", "//b:lib"])]
  let renamed : Records := .ofList [("x", ofB), ("y", ofA ["//c", "//b:lib"])]
  have turns : infos.Rearranges turned := .permuted (.swap _ _ [])
  have renames : turned.Rearranges renamed := .rekeyed rfl
  have relists : renamed.Rearranges infos' := by
    refine .relisted rfl (.cons ⟨rfl, fun _ => Iff.rfl⟩ (.cons ⟨rfl, fun label => ?_⟩ .nil))
    simp [ofA, or_comm]
  have rearranges : infos.Rearranges infos' := turns.followed (renames.followed relists)
  obtain ⟨_, _, _, sorted, stays⟩ := graph_of_records selected infos
  have found : (graph selected infos.values).get? "//a" = some ["//b", "//c"] := by decide +kernel
  refine ⟨rearranges, found, sorted _ _ found, ?_⟩
  have reported : postOrder (graph selected infos.values) = .error ["//a", "//b", "//a"] := by
    decide +kernel
  rw [(stays infos' rearranges).2, order, reported]

end ImportOrder

end WorkspaceImport
