/-!
Maps that keep the order of insertion. Writing to a key that is present keeps its place; a key that
was removed and is written again goes to the end. The entries are a list without repeated keys.
-/
namespace WorkspaceImport

def putEntry {κ ν : Type} [DecidableEq κ] (k : κ) (v : ν) : List (κ × ν) → List (κ × ν)
  | [] => [(k, v)]
  | (k', v') :: rest => if k' = k then (k', v) :: rest else (k', v') :: putEntry k v rest

def valueAt? {κ ν : Type} [DecidableEq κ] (k : κ) : List (κ × ν) → Option ν
  | [] => none
  | (k', v') :: rest => if k' = k then some v' else valueAt? k rest

theorem map_fst_putEntry {κ ν : Type} [DecidableEq κ] (k : κ) (v : ν) (entries : List (κ × ν)) :
    (putEntry k v entries).map (·.1) =
      if k ∈ entries.map (·.1) then entries.map (·.1) else entries.map (·.1) ++ [k] := by
  induction entries with
  | nil => rfl
  | cons e rest ih =>
    obtain ⟨k', v'⟩ := e
    by_cases same : k' = k
    · simp [putEntry, same]
    · have differ : ¬k = k' := fun h => same h.symm
      simp only [putEntry, if_neg same, List.map_cons, ih, List.mem_cons, differ, false_or]
      split <;> simp

theorem valueAt?_putEntry {κ ν : Type} [DecidableEq κ] (k k' : κ) (v : ν)
    (entries : List (κ × ν)) :
    valueAt? k' (putEntry k v entries) = if k = k' then some v else valueAt? k' entries := by
  induction entries with
  | nil => simp [putEntry, valueAt?]
  | cons e rest ih =>
    obtain ⟨j, w⟩ := e
    by_cases same : j = k
    · subst same
      by_cases asked : j = k' <;> simp [putEntry, valueAt?, asked]
    · by_cases asked : j = k'
      · subst asked
        have differ : ¬k = j := fun h => same h.symm
        simp [putEntry, valueAt?, same, differ]
      · simp [putEntry, valueAt?, same, asked, ih]

theorem valueAt?_eq_none_iff {κ ν : Type} [DecidableEq κ] {k : κ} {entries : List (κ × ν)} :
    valueAt? k entries = none ↔ k ∉ entries.map (·.1) := by
  induction entries with
  | nil => simp [valueAt?]
  | cons e rest ih =>
    obtain ⟨j, w⟩ := e
    by_cases same : j = k
    · simp [valueAt?, same]
    · have differ : ¬k = j := fun h => same h.symm
      simpa [valueAt?, same, differ] using ih

structure OrderedMap (κ ν : Type) where
  entries : List (κ × ν)
  nodup : (entries.map (·.1)).Nodup

namespace OrderedMap

variable {κ ν : Type}

theorem ext_entries {m n : OrderedMap κ ν} (same : m.entries = n.entries) : m = n := by
  cases m; cases n; cases same; rfl

def empty : OrderedMap κ ν :=
  ⟨[], List.nodup_nil⟩

instance : Inhabited (OrderedMap κ ν) := ⟨empty⟩

def keys (m : OrderedMap κ ν) : List κ :=
  m.entries.map (·.1)

def values (m : OrderedMap κ ν) : List ν :=
  m.entries.map (·.2)

def size (m : OrderedMap κ ν) : Nat :=
  m.entries.length

def isEmpty (m : OrderedMap κ ν) : Bool :=
  m.entries.isEmpty

def filter (m : OrderedMap κ ν) (keep : κ → ν → Bool) : OrderedMap κ ν where
  entries := m.entries.filter fun e => keep e.1 e.2
  nodup := (List.filter_sublist.map _).nodup m.nodup

variable [DecidableEq κ]

def get? (m : OrderedMap κ ν) (k : κ) : Option ν :=
  valueAt? k m.entries

def contains (m : OrderedMap κ ν) (k : κ) : Bool :=
  (m.get? k).isSome

theorem nodup_putEntry (k : κ) (v : ν) {entries : List (κ × ν)}
    (distinct : (entries.map (·.1)).Nodup) : ((putEntry k v entries).map (·.1)).Nodup := by
  rw [map_fst_putEntry]
  split
  · exact distinct
  · next absent =>
    refine List.nodup_append.2 ⟨distinct, by simp, ?_⟩
    intro a member b last same
    simp only [List.mem_singleton] at last
    exact absent (by rw [← last, ← same]; exact member)

def insert (m : OrderedMap κ ν) (k : κ) (v : ν) : OrderedMap κ ν :=
  ⟨putEntry k v m.entries, nodup_putEntry k v m.nodup⟩

def erase (m : OrderedMap κ ν) (k : κ) : OrderedMap κ ν :=
  m.filter fun k' _ => decide (k' ≠ k)

def update (m n : OrderedMap κ ν) : OrderedMap κ ν :=
  n.entries.foldl (fun r e => r.insert e.1 e.2) m

def ofList (pairs : List (κ × ν)) : OrderedMap κ ν :=
  pairs.foldl (fun r e => r.insert e.1 e.2) empty

@[simp] theorem get?_empty (k : κ) : (empty : OrderedMap κ ν).get? k = none :=
  rfl

@[simp] theorem get?_insert (m : OrderedMap κ ν) (k k' : κ) (v : ν) :
    (m.insert k v).get? k' = if k = k' then some v else m.get? k' :=
  valueAt?_putEntry k k' v m.entries

theorem keys_insert (m : OrderedMap κ ν) (k : κ) (v : ν) :
    (m.insert k v).keys = if k ∈ m.keys then m.keys else m.keys ++ [k] :=
  map_fst_putEntry k v m.entries

theorem get?_eq_none_iff {m : OrderedMap κ ν} {k : κ} : m.get? k = none ↔ k ∉ m.keys :=
  valueAt?_eq_none_iff

end OrderedMap

end WorkspaceImport
