import WorkspaceImport.Failure
import WorkspaceImport.ImportOrder.Graph
/-!
The order in which packages are imported: depth first, dependencies before what depends on them, and
otherwise in the order of the selection. The traversal keeps its own stack. A package that is met
again while it is still on the stack closes a cycle, and then there is no order.
-/
namespace WorkspaceImport.ImportOrder

inductive Mark where
  | unvisited
  | inProgress
  | done
  deriving DecidableEq

/-- A package on the stack, and those of its dependencies that were not looked at yet. -/
structure Frame where
  name : String
  pending : List String
  deriving DecidableEq

/-- The innermost frame and the package that was finished last come first. -/
structure Traversal where
  marks : OrderedMap String Mark
  stack : List Frame
  finished : List String

namespace Traversal

def unvisited (t : Traversal) : Nat :=
  t.marks.entries.countP fun e => e.2 = .unvisited

def weight (t : Traversal) : Nat :=
  t.stack.foldr (fun f rest => f.pending.length + 1 + rest) 0

/-- The packages from the one that is met again up to the innermost, and that one once more. -/
def cycleAt (stack : List Frame) (name : String) : List String :=
  (stack.map (·.name)).reverse.dropWhile (· ≠ name) ++ [name]

def enter (graph : DependencyGraph) (name : String) (t : Traversal) : Traversal where
  marks := t.marks.insert name .inProgress
  stack := ⟨name, (graph.get? name).getD []⟩ :: t.stack
  finished := t.finished

/-- One look at the innermost frame: its next dependency is entered, passed over, or found to close a
cycle; a frame without further dependencies is finished. The answer is empty when the stack is. -/
def step (graph : DependencyGraph) (t : Traversal) : Except (List String) (Option Traversal) :=
  match t.stack with
  | [] => .ok none
  | ⟨name, []⟩ :: below =>
    .ok (some ⟨t.marks.insert name .done, below, name :: t.finished⟩)
  | ⟨name, dependency :: pending⟩ :: below =>
    match t.marks.get? dependency with
    | some .inProgress => .error (cycleAt t.stack dependency)
    | some .unvisited =>
      .ok (some (enter graph dependency { t with stack := ⟨name, pending⟩ :: below }))
    | _ => .ok (some { t with stack := ⟨name, pending⟩ :: below })

theorem countP_putEntry_le {κ : Type} [DecidableEq κ] (k : κ) {m : Mark} (visited : m ≠ .unvisited)
    (entries : List (κ × Mark)) :
    (putEntry k m entries).countP (fun e => e.2 = .unvisited) ≤
      entries.countP fun e => e.2 = .unvisited := by
  induction entries with
  | nil => simp [putEntry, visited]
  | cons e rest ih =>
    obtain ⟨k', m'⟩ := e
    by_cases same : k' = k
    · simp only [putEntry, if_pos same, List.countP_cons]
      simp [visited]
    · simp only [putEntry, if_neg same, List.countP_cons]
      omega

theorem countP_putEntry_lt {κ : Type} [DecidableEq κ] (k : κ) {m : Mark} (visited : m ≠ .unvisited)
    (entries : List (κ × Mark)) (found : valueAt? k entries = some .unvisited) :
    (putEntry k m entries).countP (fun e => e.2 = .unvisited) <
      entries.countP fun e => e.2 = .unvisited := by
  induction entries with
  | nil => simp [valueAt?] at found
  | cons e rest ih =>
    obtain ⟨k', m'⟩ := e
    by_cases same : k' = k
    · simp only [valueAt?, if_pos same, Option.some.injEq] at found
      simp only [putEntry, if_pos same, List.countP_cons]
      simp [visited, found]
    · simp only [valueAt?, if_neg same] at found
      simp only [putEntry, if_neg same, List.countP_cons]
      have := ih found
      omega

def edgeCount (graph : DependencyGraph) : Nat :=
  graph.entries.foldr (fun e rest => e.2.length + rest) 0

theorem length_valueAt?_le (name : String) (entries : List (String × List String)) :
    ((valueAt? name entries).getD []).length ≤
      entries.foldr (fun e rest => e.2.length + rest) 0 := by
  induction entries with
  | nil => exact Nat.le_refl 0
  | cons e rest ih =>
    simp only [valueAt?, List.foldr_cons]
    split
    next => exact Nat.le_add_right _ _
    next => exact Nat.le_trans ih (Nat.le_add_left _ _)

/-- A bound of the steps that are left: a package that is not visited yet costs as many as it could
have dependencies, one for being finished, and one more. -/
def fuel (graph : DependencyGraph) (t : Traversal) : Nat :=
  t.unvisited * (edgeCount graph + 2) + t.weight

theorem step_decreases {graph : DependencyGraph} {t next : Traversal}
    (stepped : step graph t = .ok (some next)) : next.fuel graph < t.fuel graph := by
  unfold step at stepped
  split at stepped
  · cases stepped
  · next name below shape =>
    cases stepped
    have visited := Nat.mul_le_mul_right (edgeCount graph + 2)
      (countP_putEntry_le name (m := .done) (by decide) t.marks.entries)
    simp only [fuel, unvisited, weight, shape, OrderedMap.insert, List.foldr_cons,
      List.length_nil] at visited ⊢
    omega
  · next name dependency pending below shape =>
    split at stepped
    · cases stepped
    · next found =>
      cases stepped
      have visited := Nat.mul_le_mul_right (edgeCount graph + 2)
        (countP_putEntry_lt dependency (m := .inProgress) (by decide) t.marks.entries found)
      have few : ((graph.get? dependency).getD []).length ≤ edgeCount graph :=
        length_valueAt?_le dependency graph.entries
      simp only [fuel, enter, unvisited, weight, shape, OrderedMap.insert, List.foldr_cons,
        List.length_cons, Nat.succ_mul] at visited ⊢
      omega
    · cases stepped
      simp only [fuel, unvisited, weight, shape, List.foldr_cons, List.length_cons]
      omega

def run (graph : DependencyGraph) (t : Traversal) : Except (List String) Traversal :=
  match _stepped : step graph t with
  | .error cycle => .error cycle
  | .ok none => .ok t
  | .ok (some next) => run graph next
termination_by t.fuel graph
decreasing_by exact step_decreases _stepped

def runFrom (graph : DependencyGraph) (t : Traversal) (name : String) :
    Except (List String) Traversal :=
  match t.marks.get? name with
  | some .unvisited => run graph (enter graph name t)
  | _ => .ok t

def start (names : List String) : Traversal :=
  ⟨OrderedMap.ofList (names.map fun name => (name, .unvisited)), [], []⟩

end Traversal

def postOrder (graph : DependencyGraph) : Except (List String) (List String) :=
  (graph.keys.foldlM (Traversal.runFrom graph) (Traversal.start graph.keys)).map fun t =>
    t.finished.reverse

/-- The order of the import: the root of the workspace, and then the selected packages. -/
def order (root : PackageNode) (selected : List PackageNode) (infos : List PackageInfo) :
    Except Failure (List PackageNode) :=
  match postOrder (graph selected infos) with
  | .error cycle => .error (.dependencyCycle cycle)
  | .ok names =>
    .ok (root :: names.filterMap fun name => (packages selected).find? fun n => n.name = name)

end WorkspaceImport.ImportOrder
