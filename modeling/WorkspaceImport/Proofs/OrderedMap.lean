import WorkspaceImport.OrderedMap
import Mathlib.Data.List.Basic
import Mathlib.Data.List.Induction
/-!
Ordered maps are determined by the order of their keys and by what is beside each key. Writing a
map to another one is the same whether it was collected first or written pair by pair.
-/
namespace WorkspaceImport

section Distinct

variable {α : Type} [BEq α] [LawfulBEq α]

theorem nodup_eraseDups (xs : List α) : xs.eraseDups.Nodup := by
  match xs with
  | [] => exact List.nodup_nil
  | x :: rest =>
    rw [List.eraseDups_cons, List.nodup_cons, List.mem_eraseDups]
    exact ⟨by simp, nodup_eraseDups _⟩
termination_by xs.length
decreasing_by exact Nat.lt_succ_of_le (List.length_filter_le _ _)

theorem eraseDups_concat (xs : List α) (x : α) :
    (xs ++ [x]).eraseDups = if x ∈ xs then xs.eraseDups else xs.eraseDups ++ [x] := by
  rw [List.eraseDups_append]
  by_cases met : x ∈ xs
  · simp [List.removeAll, met]
  · simp [List.removeAll, met, List.eraseDups_cons]

theorem eraseDups_filter (xs : List α) (keep : α → Bool) :
    (xs.filter keep).eraseDups = xs.eraseDups.filter keep := by
  induction xs using List.reverseRecOn with
  | nil => rfl
  | append_singleton xs x ih =>
    rw [eraseDups_concat, List.filter_append]
    by_cases kept : keep x = true
    · rw [List.filter_cons_of_pos kept, List.filter_nil, eraseDups_concat]
      by_cases met : x ∈ xs <;> simp [met, kept, ih]
    · rw [List.filter_cons_of_neg kept, List.filter_nil, List.append_nil, ih]
      by_cases met : x ∈ xs <;> simp [met, kept]

end Distinct

namespace OrderedMap

variable {κ ν : Type} [DecidableEq κ]

theorem mem_of_valueAt? {k : κ} {v : ν} {entries : List (κ × ν)}
    (found : valueAt? k entries = some v) : (k, v) ∈ entries := by
  induction entries with
  | nil => cases found
  | cons e rest ih =>
    obtain ⟨j, w⟩ := e
    rw [valueAt?] at found
    split at found
    next same =>
      cases found
      rw [same]
      exact List.mem_cons_self
    next => exact List.mem_cons_of_mem _ (ih found)

theorem valueAt?_eq_some_iff {k : κ} {v : ν} {entries : List (κ × ν)}
    (distinct : (entries.map (·.1)).Nodup) : valueAt? k entries = some v ↔ (k, v) ∈ entries := by
  induction entries with
  | nil => simp [valueAt?]
  | cons e rest ih =>
    obtain ⟨j, w⟩ := e
    simp only [List.map_cons, List.nodup_cons] at distinct
    by_cases same : j = k
    · subst same
      have outside : (j, v) ∉ rest := fun member => distinct.1 (List.mem_map.2 ⟨_, member, rfl⟩)
      simp [valueAt?, outside, eq_comm]
    · have differ : ¬k = j := fun h => same h.symm
      simp [valueAt?, same, differ, ih distinct.2]

theorem get?_eq_some_iff {m : OrderedMap κ ν} {k : κ} {v : ν} :
    m.get? k = some v ↔ (k, v) ∈ m.entries :=
  valueAt?_eq_some_iff m.nodup

theorem contains_iff {m : OrderedMap κ ν} {k : κ} :
    m.contains k = true ↔ ∃ v, m.get? k = some v :=
  Option.isSome_iff_exists

theorem contains_eq_false_iff {m : OrderedMap κ ν} {k : κ} :
    m.contains k = false ↔ m.get? k = none := by
  simp [contains]

theorem contains_iff_mem_keys {m : OrderedMap κ ν} {k : κ} :
    m.contains k = true ↔ k ∈ m.keys := by
  rw [← not_iff_not, Bool.not_eq_true, contains_eq_false_iff, get?_eq_none_iff]

theorem map_valueAt?_keys {entries : List (κ × ν)} (distinct : (entries.map (·.1)).Nodup) :
    entries.map some = (entries.map (·.1)).map fun k => (valueAt? k entries).map fun v => (k, v) := by
  rw [List.map_map]
  apply List.map_congr_left
  intro e member
  have found : valueAt? e.1 entries = some e.2 := (valueAt?_eq_some_iff distinct).2 member
  simp only [Function.comp_apply, found, Option.map_some]

theorem ext_get? {m n : OrderedMap κ ν} (order : m.keys = n.keys)
    (same : ∀ k, m.get? k = n.get? k) : m = n := by
  apply ext_entries
  apply List.map_injective_iff.2 fun _ _ => Option.some.inj
  have values : (fun k => valueAt? k m.entries) = fun k => valueAt? k n.entries := funext same
  calc m.entries.map some
      = m.keys.map fun k => (valueAt? k m.entries).map fun v => (k, v) := map_valueAt?_keys m.nodup
    _ = n.keys.map fun k => (valueAt? k n.entries).map fun v => (k, v) := by
        rw [order]
        apply List.map_congr_left
        intro k _
        rw [congrFun values k]
    _ = n.entries.map some := (map_valueAt?_keys n.nodup).symm

@[simp] theorem contains_insert (m : OrderedMap κ ν) (k j : κ) (v : ν) :
    (m.insert k v).contains j = (decide (k = j) || m.contains j) := by
  by_cases same : k = j <;> simp [contains, same]

theorem get?_filter {m : OrderedMap κ ν} {keep : κ → ν → Bool} {k : κ} {v : ν} :
    (m.filter keep).get? k = some v ↔ m.get? k = some v ∧ keep k v = true := by
  simp [get?_eq_some_iff, filter, List.mem_filter]

theorem get?_erase (m : OrderedMap κ ν) (k j : κ) :
    (m.erase k).get? j = if k = j then none else m.get? j := by
  apply Option.ext
  intro v
  by_cases same : k = j
  · subst same
    simp [erase, get?_filter]
  · have differ : ¬j = k := fun h => same h.symm
    simp [erase, get?_filter, same, differ]

theorem keys_prefix_insert (m : OrderedMap κ ν) (k : κ) (v : ν) : m.keys <+: (m.insert k v).keys := by
  rw [keys_insert]
  split
  next => exact List.prefix_rfl
  next => exact List.prefix_append m.keys [k]

section Update

variable (m n : OrderedMap κ ν)

@[simp] theorem update_empty : m.update empty = m :=
  rfl

theorem keys_foldl_insert (pairs : List (κ × ν)) (distinct : (pairs.map (·.1)).Nodup) :
    (pairs.foldl (fun r e => r.insert e.1 e.2) m).keys =
      m.keys ++ (pairs.map (·.1)).filter (· ∉ m.keys) := by
  induction pairs generalizing m with
  | nil => simp
  | cons e rest ih =>
    simp only [List.map_cons, List.nodup_cons] at distinct
    rw [List.foldl_cons, ih _ distinct.2, keys_insert]
    by_cases present : e.1 ∈ m.keys
    · simp [present]
    · have rest_same : (rest.map (·.1)).filter (· ∉ m.keys ++ [e.1]) =
          (rest.map (·.1)).filter (· ∉ m.keys) := by
        apply List.filter_congr
        intro k member
        have differ : k ≠ e.1 := fun h => distinct.1 (h ▸ member)
        simp [differ]
      rw [if_neg present, rest_same]
      simp [present]

theorem keys_update : (m.update n).keys = m.keys ++ n.keys.filter (· ∉ m.keys) :=
  keys_foldl_insert m n.entries n.nodup

theorem keys_prefix_update : m.keys <+: (m.update n).keys := by
  rw [keys_update]
  exact List.prefix_append _ _

theorem get?_foldl_insert (pairs : List (κ × ν)) (k : κ) :
    (pairs.foldl (fun r e => r.insert e.1 e.2) m).get? k =
      (((pairs.filter (·.1 = k)).getLast?).map (·.2)).or (m.get? k) := by
  induction pairs generalizing m with
  | nil => simp
  | cons e rest ih =>
    rw [List.foldl_cons, ih, get?_insert, List.filter_cons]
    by_cases same : e.1 = k
    · simp only [same, decide_true, if_true, List.getLast?_cons]
      cases (rest.filter (·.1 = k)).getLast? <;> simp
    · simp [same]

theorem get?_update (k : κ) : (m.update n).get? k = (n.get? k).or (m.get? k) := by
  rw [update, get?_foldl_insert]
  congr 1
  apply Option.ext
  intro v
  rw [get?_eq_some_iff]
  have distinct : (n.entries.filter (·.1 = k)).map (·.1) |>.Nodup :=
    (List.filter_sublist.map _).nodup n.nodup
  constructor
  · intro last
    obtain ⟨e, found, rfl⟩ := Option.map_eq_some_iff.1 last
    obtain ⟨member, same⟩ := List.mem_filter.1 (List.mem_of_getLast? found)
    rw [← of_decide_eq_true same]
    exact member
  · intro member
    have kept : (k, v) ∈ n.entries.filter (·.1 = k) := List.mem_filter.2 ⟨member, by simp⟩
    have one : n.entries.filter (·.1 = k) = [(k, v)] := by
      cases entries : n.entries.filter (·.1 = k) with
      | nil => rw [entries] at kept; cases kept
      | cons e rest =>
        have keys : ∀ f ∈ e :: rest, f.1 = k := by
          intro f inside
          rw [← entries] at inside
          exact of_decide_eq_true (List.mem_filter.1 inside).2
        cases rest with
        | nil => rw [entries] at kept; rw [List.mem_singleton.1 kept]
        | cons f more =>
          rw [entries] at distinct
          simp [keys e (by simp), keys f (by simp)] at distinct
    rw [one]
    rfl

theorem contains_update (k : κ) : (m.update n).contains k = (n.contains k || m.contains k) := by
  simp only [contains, get?_update]
  cases n.get? k <;> simp

end Update

theorem update_insert (m n : OrderedMap κ ν) (k : κ) (v : ν) :
    m.update (n.insert k v) = (m.update n).insert k v := by
  apply ext_get?
  · rw [keys_update, keys_insert, keys_insert, keys_update]
    by_cases inFirst : k ∈ m.keys
    · by_cases inSecond : k ∈ n.keys <;> simp [inFirst, inSecond]
    · by_cases inSecond : k ∈ n.keys <;> simp [inFirst, inSecond]
  · intro j
    rw [get?_update, get?_insert, get?_insert, get?_update]
    split <;> simp

theorem entries_insert {m : OrderedMap κ ν} {k : κ} (absent : m.get? k = none) (v : ν) :
    (m.insert k v).entries = m.entries ++ [(k, v)] := by
  change putEntry k v m.entries = _
  rw [get?] at absent
  generalize m.entries = entries at absent
  induction entries with
  | nil => rfl
  | cons e rest ih =>
    rw [valueAt?] at absent
    split at absent
    next => cases absent
    next differ =>
      simp only [putEntry, if_neg differ, List.cons_append, List.cons.injEq, true_and]
      exact ih absent

theorem insert_eq_self {m : OrderedMap κ ν} {k : κ} {v : ν} (present : m.get? k = some v) :
    m.insert k v = m := by
  have member : k ∈ m.keys := contains_iff_mem_keys.1 (contains_iff.2 ⟨v, present⟩)
  apply ext_get?
  · rw [keys_insert, if_pos member]
  · intro j
    rw [get?_insert]
    split
    next same => rw [← same, present]
    next => rfl

theorem update_foldl_insert (m n : OrderedMap κ ν) (pairs : List (κ × ν)) :
    m.update (pairs.foldl (fun r e => r.insert e.1 e.2) n) =
      pairs.foldl (fun r e => r.insert e.1 e.2) (m.update n) := by
  induction pairs generalizing n with
  | nil => rfl
  | cons e rest ih => rw [List.foldl_cons, List.foldl_cons, ih, update_insert]

theorem update_update (m n p : OrderedMap κ ν) : m.update (n.update p) = (m.update n).update p :=
  update_foldl_insert m n p.entries

theorem foldl_insert_eq_update (m : OrderedMap κ ν) (pairs : List (κ × ν)) :
    pairs.foldl (fun r e => r.insert e.1 e.2) m = m.update (ofList pairs) := by
  rw [ofList, update_foldl_insert, update_empty]

theorem keys_ofList (pairs : List (κ × ν)) :
    (ofList pairs).keys = (pairs.map (·.1)).eraseDups := by
  induction pairs using List.reverseRecOn with
  | nil => rfl
  | append_singleton pairs e ih =>
    have last : ofList (pairs ++ [e]) = (ofList pairs).insert e.1 e.2 := by
      simp [ofList, List.foldl_append]
    simp only [last, keys_insert, ih, List.map_append, List.map_singleton, eraseDups_concat,
      List.mem_eraseDups]

theorem get?_ofList (pairs : List (κ × ν)) (k : κ) :
    (ofList pairs).get? k = ((pairs.filter (·.1 = k)).getLast?).map (·.2) := by
  rw [ofList, get?_foldl_insert, get?_empty, Option.or_none]

theorem get?_ofList_own (key : ν → κ) (values : List ν) (k : κ) :
    (ofList (values.map fun v => (key v, v))).get? k = (values.filter (key · = k)).getLast? := by
  rw [get?_ofList, List.filter_map, List.getLast?_map, Option.map_map]
  have own : (fun e : κ × ν => e.2) ∘ (fun v => (key v, v)) = id := rfl
  rw [own, Option.map_id_fun, id]
  rfl

theorem mem_values_ofList {pairs : List (κ × ν)} {v : ν} (member : v ∈ (ofList pairs).values) :
    ∃ k, (k, v) ∈ pairs := by
  obtain ⟨⟨k, _⟩, inside, rfl⟩ := List.mem_map.1 member
  have found := get?_eq_some_iff.2 inside
  rw [get?_ofList] at found
  obtain ⟨⟨k', _⟩, last, rfl⟩ := Option.map_eq_some_iff.1 found
  exact ⟨k', (List.mem_filter.1 (List.mem_of_getLast? last)).1⟩

theorem ofList_eq_mk {pairs : List (κ × ν)} (distinct : (pairs.map (·.1)).Nodup) :
    ofList pairs = ⟨pairs, distinct⟩ := by
  have whole : ofList pairs = empty.update ⟨pairs, distinct⟩ := rfl
  rw [whole]
  apply ext_get?
  · rw [keys_update]
    simp [keys, empty]
  · intro k
    rw [get?_update, get?_empty, Option.or_none]

theorem valueAt?_map (keys : List κ) (f : κ → ν) (k : κ) :
    valueAt? k (keys.map fun key => (key, f key)) = if k ∈ keys then some (f k) else none := by
  induction keys with
  | nil => rfl
  | cons key rest ih =>
    simp only [List.map_cons, valueAt?, ih, List.mem_cons]
    by_cases same : key = k
    · simp [same]
    · have differ : ¬k = key := fun h => same h.symm
      simp [same, differ]

theorem get?_ofList_map {keys : List κ} (distinct : keys.Nodup) (f : κ → ν) (k : κ) :
    (ofList (keys.map fun key => (key, f key))).get? k =
      if k ∈ keys then some (f k) else none := by
  have same : (keys.map fun key => (key, f key)).map (·.1) = keys := by
    simp [Function.comp_def]
  rw [ofList_eq_mk (by rw [same]; exact distinct)]
  exact valueAt?_map keys f k

theorem keys_ofList_map {keys : List κ} (distinct : keys.Nodup) (f : κ → ν) :
    (ofList (keys.map fun key => (key, f key))).keys = keys := by
  have same : (keys.map fun key => (key, f key)).map (·.1) = keys := by
    simp [Function.comp_def]
  rw [ofList_eq_mk (by rw [same]; exact distinct)]
  exact same

omit [DecidableEq κ] in
theorem keys_ne_nil {m : OrderedMap κ ν} (some : ¬m.isEmpty = true) : m.keys ≠ [] := by
  intro none
  apply some
  rw [isEmpty, List.map_eq_nil_iff.1 none, List.isEmpty_nil]

omit [DecidableEq κ] in
theorem isEmpty_iff {m : OrderedMap κ ν} : m.isEmpty = true ↔ m = empty := by
  constructor
  · intro none
    exact ext_entries (List.isEmpty_iff.1 none)
  · rintro rfl
    rfl

theorem isEmpty_eq_false_iff {m : OrderedMap κ ν} :
    m.isEmpty = false ↔ ∃ k v, m.get? k = some v := by
  constructor
  · intro some
    obtain ⟨k, member⟩ := List.exists_mem_of_ne_nil _ (keys_ne_nil (Bool.eq_false_iff.1 some))
    exact ⟨k, contains_iff.1 (contains_iff_mem_keys.2 member)⟩
  · rintro ⟨k, v, found⟩
    rw [Bool.eq_false_iff]
    intro none
    rw [isEmpty_iff.1 none] at found
    cases found

end OrderedMap

end WorkspaceImport
