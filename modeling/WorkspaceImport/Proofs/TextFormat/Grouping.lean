import WorkspaceImport.TextFormat.Message
import WorkspaceImport.Proofs.OrderedMap
/-!
Fields grouped by name. A message is shown as a mapping from its names, in the order in which they
first occur, to the values that stand beside each of them in the order of the text. The values are
grouped in the same way, however deep they lie.
-/
namespace WorkspaceImport.TextFormat

/-- A value shows an item: a text shows itself, and a mapping shows a message when it has its names
and beside each name what shows the items there. -/
inductive Item.Groups : Item → Value → Prop where
  | scalar (s : String) : Groups (.scalar s) (.text s)
  | message {fs : Message} {image : Item → Value} (below : ∀ f ∈ fs, Groups f.2 (image f.2)) :
      Groups (.message fs) (.ofFields ((fs.map (·.1)).eraseDups.map fun name =>
        (name, .list ((fs.filter (·.1 = name)).map fun f => image f.2))))

/-- Groups that are told by their names: the new value goes in front of its group, or is a group of
its own behind the others. -/
theorem addToGroup_map (name : String) (v : Value) {names : List String} (distinct : names.Nodup)
    (group : String → List Value) (new : name ∉ names → group name = []) :
    addToGroup name v (names.map fun n => (n, group n)) =
      (if name ∈ names then names else names ++ [name]).map fun n =>
        (n, if n = name then v :: group n else group n) := by
  induction names with
  | nil => simp [addToGroup, new]
  | cons first rest ih =>
    obtain ⟨outside, distinct⟩ := List.nodup_cons.1 distinct
    rw [List.map_cons, addToGroup]
    by_cases same : first = name
    · subst same
      have others : rest.map (fun n => (n, if n = first then v :: group n else group n)) =
          rest.map fun n => (n, group n) := by
        apply List.map_congr_left
        intro n member
        rw [if_neg]
        rintro rfl
        exact outside member
      rw [if_pos rfl, if_pos List.mem_cons_self, List.map_cons, if_pos rfl, others]
    · have differ : ¬name = first := fun h => same h.symm
      have known : name ∈ first :: rest ↔ name ∈ rest := by simp [differ]
      rw [if_neg same, ih distinct fun absent => new (known.not.2 absent)]
      by_cases met : name ∈ rest
      · rw [if_pos met, if_pos (known.2 met), List.map_cons, if_neg same]
      · rw [if_neg met, if_neg (known.not.2 met), List.cons_append, List.map_cons, if_neg same]

/-- The groups of a message, told by the names that occur; the newest value of each comes first. -/
def groupsOf (fs : Message) : List (String × List Value) :=
  (fs.map (·.1)).eraseDups.map fun name =>
    (name, ((fs.filter (·.1 = name)).map fun f => f.2.toValue).reverse)

theorem addToGroup_groupsOf (done : Message) (name : String) (item : Item) :
    addToGroup name item.toValue (groupsOf done) = groupsOf (done ++ [(name, item)]) := by
  have unknown : name ∉ (done.map (·.1)).eraseDups →
      ((done.filter (·.1 = name)).map fun f => f.2.toValue).reverse = [] := by
    rw [List.mem_eraseDups]
    intro absent
    rw [List.filter_eq_nil_iff.2]
    · rfl
    · intro f member same
      exact absent (List.mem_map.2 ⟨f, member, of_decide_eq_true same⟩)
  rw [groupsOf, addToGroup_map name _ (nodup_eraseDups _) _ unknown, groupsOf, List.map_append,
    List.map_singleton, eraseDups_concat]
  simp only [List.mem_eraseDups]
  apply List.map_congr_left
  intro n _
  by_cases same : n = name
  · simp [same]
  · have differ : ¬name = n := fun h => same h.symm
    simp [same, differ]

theorem groups_groupsOf (done fs : Message) : groups (groupsOf done) fs = groupsOf (done ++ fs) := by
  induction fs generalizing done with
  | nil => rw [groups, List.append_nil]
  | cons f rest ih =>
    obtain ⟨name, item⟩ := f
    rw [groups, addToGroup_groupsOf, ih, List.append_assoc, List.singleton_append]

theorem toValue_message (fs : Message) : (Item.message fs).toValue =
    .ofFields ((fs.map (·.1)).eraseDups.map fun name =>
      (name, .list ((fs.filter (·.1 = name)).map fun f => f.2.toValue))) := by
  have none : groupsOf [] = [] := rfl
  rw [Item.toValue, ← none, groups_groupsOf, List.nil_append, groupsOf, List.map_map]
  simp only [Function.comp_def, List.reverse_reverse]

theorem Item.groups_toValue : (item : Item) → item.Groups item.toValue
  | .scalar s => by
    rw [Item.toValue]
    exact .scalar s
  | .message fs => by
    rw [toValue_message]
    exact .message fun f _ => f.2.groups_toValue
termination_by item => sizeOf item
decreasing_by
  next member =>
    have smaller := List.sizeOf_lt_of_mem member
    obtain ⟨name, item⟩ := f
    simp only [Prod.mk.sizeOf_spec, Item.message.sizeOf_spec] at smaller ⊢
    omega

theorem Item.groups_iff {item : Item} {v : Value} : item.Groups v ↔ v = item.toValue := by
  constructor
  · intro groups
    induction groups with
    | scalar s => rw [Item.toValue]
    | @message fs image below ih =>
      have same (name : String) : (fs.filter (·.1 = name)).map (fun f => image f.2) =
          (fs.filter (·.1 = name)).map fun f => f.2.toValue := by
        apply List.map_congr_left
        intro f member
        exact ih f (List.mem_filter.1 member).1
      simp only [toValue_message, same]
  · rintro rfl
    exact item.groups_toValue

end WorkspaceImport.TextFormat
