import WorkspaceImport.Data.Value
import WorkspaceImport.Proofs.OrderedMap
/-!
Data values as mappings. An object is a mapping from texts, so no key is in it twice. Mappings without
lists or mappings in them can be compared.
-/
namespace WorkspaceImport.Value

/-- The entries of an object. -/
def fields (m : OrderedMap String Value) : List (Value × Value) :=
  m.entries.map fun e => (.text e.1, e.2)

theorem field?_fields (m : OrderedMap String Value) (name : String) :
    field? name (fields m) = m.get? name := by
  rw [fields, OrderedMap.get?]
  induction m.entries with
  | nil => rfl
  | cons e rest ih =>
    rw [List.map_cons, field?, valueAt?, ih]

theorem putEntry_fields (m : OrderedMap String Value) (k : String) (v : Value) :
    putEntry (.text k) v (fields m) = fields (m.insert k v) := by
  change putEntry (.text k) v (fields m) = (WorkspaceImport.putEntry k v m.entries).map _
  rw [fields]
  induction m.entries with
  | nil => rfl
  | cons e rest ih =>
    rw [List.map_cons, putEntry, WorkspaceImport.putEntry, ih]
    by_cases same : e.1 = k <;> simp [sameKey, same]

theorem values_fields (m : OrderedMap String Value) : (fields m).map (·.2) = m.values := by
  rw [fields, List.map_map]
  rfl

section Flat

/-- Whether two values are the same text, whole number or truth value, or both null. -/
def sameScalar : Value → Value → Bool
  | .null, .null => true
  | .bool a, .bool b => a == b
  | .int m, .int n => m == n
  | .text s, .text t => s == t
  | _, _ => false

theorem eq_of_sameScalar {v w : Value} (same : sameScalar v w = true) : v = w := by
  unfold sameScalar at same
  split at same
  next => rfl
  next => rw [eq_of_beq same]
  next => rw [eq_of_beq same]
  next => rw [eq_of_beq same]
  next => cases same

def sameEntries : List (Value × Value) → List (Value × Value) → Bool
  | [], [] => true
  | e :: es, f :: fs => sameScalar e.1 f.1 && sameScalar e.2 f.2 && sameEntries es fs
  | _, _ => false

theorem eq_of_sameEntries {es fs : List (Value × Value)} (same : sameEntries es fs = true) :
    es = fs := by
  induction es generalizing fs with
  | nil =>
    cases fs with
    | nil => rfl
    | cons f fs => cases same
  | cons e es ih =>
    cases fs with
    | nil => cases same
    | cons f fs =>
      simp only [sameEntries, Bool.and_eq_true] at same
      obtain ⟨⟨key, value⟩, rest⟩ := same
      rw [Prod.ext (eq_of_sameScalar key) (eq_of_sameScalar value), ih rest]

def isMapOf {ε : Type} (entries : List (Value × Value)) : Except ε Value → Bool
  | .ok (.map found) => sameEntries found entries
  | _ => false

theorem eq_of_isMapOf {ε : Type} {entries : List (Value × Value)} {answer : Except ε Value}
    (same : isMapOf entries answer = true) : answer = .ok (.map entries) := by
  unfold isMapOf at same
  split at same
  next => rw [eq_of_sameEntries same]
  next => cases same

end Flat

end WorkspaceImport.Value
