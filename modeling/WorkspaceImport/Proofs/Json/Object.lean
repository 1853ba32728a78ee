import WorkspaceImport.Json.Reader
import WorkspaceImport.Proofs.Outcome
import WorkspaceImport.Proofs.Value
/-!
What JSON documents stand for. An object is a mapping from texts, so no key is in it twice; the value
of a document is made of objects, lists, texts, numbers, truth values and null, and of nothing else
that values can be.
-/
namespace WorkspaceImport

namespace Value

inductive IsJson : Value → Prop
  | null : IsJson .null
  | bool (b : Bool) : IsJson (.bool b)
  | int (n : Int) : IsJson (.int n)
  | float (x : Binary64) : IsJson (.float x)
  | text (s : String) : IsJson (.text s)
  | list {items : List Value} (each : ∀ v ∈ items, IsJson v) : IsJson (.list items)
  | object {m : OrderedMap String Value} (each : ∀ v ∈ m.values, IsJson v) :
      IsJson (.map (fields m))

theorem IsJson.values {m : OrderedMap String Value} (isJson : (map (fields m)).IsJson) :
    ∀ v ∈ m.values, v.IsJson := by
  rw [← values_fields]
  generalize fields m = entries at isJson
  cases isJson with
  | object each => rwa [values_fields]

theorem IsJson.get? {m : OrderedMap String Value} (isJson : (map (fields m)).IsJson) (name : String) :
    ∀ v ∈ m.get? name, v.IsJson := fun v found =>
  isJson.values v (List.mem_map.2 ⟨_, OrderedMap.get?_eq_some_iff.1 found, rfl⟩)

theorem isJson_insert {m : OrderedMap String Value} {k : String} {v : Value} (isJson : v.IsJson)
    (each : ∀ w ∈ m.values, w.IsJson) : ∀ w ∈ (m.insert k v).values, w.IsJson := by
  intro w member
  obtain ⟨⟨k', _⟩, entry, rfl⟩ := List.mem_map.1 member
  have found := OrderedMap.get?_eq_some_iff.2 entry
  rw [OrderedMap.get?_insert] at found
  split at found
  next =>
    cases found
    exact isJson
  next => exact each _ (List.mem_map.2 ⟨_, OrderedMap.get?_eq_some_iff.1 found, rfl⟩)

end Value

namespace Json

open Value (IsJson)

theorem isJson_word {cs : List Char} {found : Value × Rest cs} (word : word? cs = some found) :
    found.1.IsJson := by
  obtain ⟨w, listed, rfl⟩ := Option.map_eq_some_iff.1 word
  have each : ∀ w ∈ words, w.2.IsJson := by
    simp only [words, List.forall_mem_cons, List.not_mem_nil, false_imp_iff, implies_true, and_true]
    exact ⟨.null, .bool true, .bool false, .float .nan, .float _, .float _⟩
  exact each w (List.mem_of_find?_eq_some listed)

theorem isJson_number {n : NumberText} {v : Value} (value : n.value = .ok v) : v.IsJson := by
  unfold NumberText.value at value
  split at value
  next =>
    split at value
    next => cases value
    next =>
      cases value
      exact .int _
  next =>
    cases value
    exact .float _

-- The induction is the recursion of the reader: what is left of the text gets shorter.
mutual

theorem isJson_readValue {depth : Nat} {cs : List Char} {v : Value} {left : Rest cs}
    (found : readValue depth cs = .ok (v, left)) : v.IsJson := by
  unfold readValue at found
  split at found
  next => cases found
  next =>
    obtain ⟨_, _, ended⟩ := except_bind_eq_ok.1 found
    cases ended
    exact .text _
  next =>
    split at found
    next => cases found
    next =>
      obtain ⟨_, inner, ended⟩ := except_bind_eq_ok.1 found
      cases ended
      exact .list (isJson_readItems inner nofun)
  next =>
    split at found
    next => cases found
    next =>
      obtain ⟨⟨entries, _⟩, inner, ended⟩ := except_bind_eq_ok.1 found
      cases ended
      obtain ⟨m, rfl, each⟩ := exists_readMembers (m := .empty) inner nofun
      exact .object each
  next =>
    split at found
    next _ word =>
      cases found
      exact isJson_word word
    next =>
      split at found
      next n _ _ =>
        cases value : n.value with
        | error _ =>
          rw [value] at found
          cases found
        | ok w =>
          rw [value] at found
          cases found
          exact isJson_number value
      next => cases found
termination_by 2 * cs.length
decreasing_by all_goals (subst_vars; rw [List.length_cons]; omega)

theorem isJson_readItems {depth : Nat} {first : Bool} {done items : List Value} {cs : List Char}
    {left : Rest cs} (found : readItems depth first done cs = .ok (items, left))
    (each : ∀ v ∈ done, v.IsJson) :
    ∀ v ∈ items, v.IsJson := by
  have short : (skipSpace cs).length ≤ cs.length := length_skipSpace_le cs
  unfold readItems at found
  simp only at found
  split at found
  next =>
    cases found
    exact fun v member => each v (List.mem_reverse.1 member)
  next =>
    obtain ⟨⟨v, after⟩, item, ended⟩ := except_bind_eq_ok.1 found
    have each' : ∀ w ∈ v :: done, w.IsJson :=
      List.forall_mem_cons.2 ⟨isJson_readValue item, each⟩
    simp only at ended
    split at ended
    next more same =>
      have shorter := length_lt_of_skipSpace same
      have := after.2
      obtain ⟨_, inner, ended⟩ := except_bind_eq_ok.1 ended
      cases ended
      exact isJson_readItems inner each'
    next =>
      cases ended
      exact fun w member => each' w (List.mem_reverse.1 member)
    next => cases ended
termination_by 2 * cs.length + 1
decreasing_by all_goals omega

theorem exists_readMembers {depth : Nat} {first : Bool} {m : OrderedMap String Value}
    {entries : List (Value × Value)} {cs : List Char} {left : Rest cs}
    (found : readMembers depth first (Value.fields m) cs = .ok (entries, left))
    (each : ∀ v ∈ m.values, v.IsJson) :
    ∃ n : OrderedMap String Value, entries = Value.fields n ∧ ∀ v ∈ n.values, v.IsJson := by
  unfold readMembers at found
  split at found
  next rest opened =>
    have inside := length_lt_of_skipSpace opened
    obtain ⟨⟨key, after⟩, _, found⟩ := except_bind_eq_ok.1 found
    have := after.2
    simp only at found
    split at found
    next more colon =>
      have shorter := length_lt_of_skipSpace colon
      have short := length_skipSpace_le more
      obtain ⟨⟨v, after'⟩, value, found⟩ := except_bind_eq_ok.1 found
      have := after'.2
      simp only [Value.putEntry_fields] at found
      have each' := Value.isJson_insert (k := key) (isJson_readValue value) each
      split at found
      next more' comma =>
        have shorter' := length_lt_of_skipSpace comma
        obtain ⟨_, inner, ended⟩ := except_bind_eq_ok.1 found
        cases ended
        exact exists_readMembers inner each'
      next =>
        cases found
        exact ⟨_, rfl, each'⟩
      next => cases found
    next => cases found
  next =>
    split at found
    next =>
      cases found
      exact ⟨m, rfl, each⟩
    next => cases found
  next => cases found
termination_by 2 * cs.length + 1
decreasing_by all_goals omega

end

theorem isJson_read {document : String} {v : Value} (found : read document = .ok v) : v.IsJson := by
  unfold read readChars at found
  split at found
  next => cases found
  next =>
    obtain ⟨⟨w, left⟩, value, ended⟩ := except_bind_eq_ok.1 found
    simp only at ended
    split at ended
    next =>
      cases ended
      exact isJson_readValue value
    next => cases ended

end Json

end WorkspaceImport
