import WorkspaceImport.Package.Scan
import WorkspaceImport.Proofs.Files.Path
import WorkspaceImport.Proofs.Files.Tree
/-!
The directories that a scan lists. They are those that no name on the way leaves out, and that have no
longer a path than the system takes; the levels of a scan are the directories on the longest way to one
of them.
-/
namespace WorkspaceImport.Package

def IsReached (root : Path) (place : List String) : Prop :=
  (root.join ⟨.relative, place⟩).text.utf8ByteSize ≤ FileTree.pathLimit

instance (root : Path) (place : List String) : Decidable (IsReached root place) :=
  inferInstanceAs (Decidable (_ ≤ _))

/-- A scan lists the directory at this place. -/
structure IsListed (root : Path) (e : Entry) (place : List String) : Prop where
  visible : ∀ name ∈ place, isSkipped name = false
  reached : IsReached root place
  found : ∃ children, e.get? place = some (.directory children)

section Places

variable {root : Path} {e : Entry} {place : List String} {children : List (String × Entry)}
  {name : String}

theorem isReached_iff (named : ∀ s ∈ place, Path.IsName s) :
    isReached root (String.intercalate "/" place) = true ↔ IsReached root place := by
  rw [isReached, Path.ofString_intercalate named, decide_eq_true_eq, IsReached]

theorem IsReached.of_above {outer : List String} (reached : IsReached root place)
    (above : outer <+: place) : IsReached root outer := by
  obtain ⟨more, rfl⟩ := above
  have whole : root.join ⟨.relative, outer ++ more⟩ = ⟨root.root, (root.segments ++ outer) ++ more⟩ := by
    rw [List.append_assoc]
    rfl
  rw [IsReached, whole] at reached
  exact Path.utf8ByteSize_text_append_le (by decide) reached

theorem childPath_intercalate (named : ∀ s ∈ place, Path.IsName s) (name : String) :
    childPath (String.intercalate "/" place) name = String.intercalate "/" (place ++ [name]) := by
  by_cases top : place = []
  · subst top
    simp [childPath]
  · have written : String.intercalate "/" place ≠ "" := mt (Path.intercalate_eq_empty_iff named).1 top
    rw [String.intercalate_append_of_ne_nil top (List.cons_ne_nil name []), childPath,
      if_neg (by simpa using written), String.intercalate_singleton]

theorem isName_of_visible (visible : isSkipped name = false)
    (named : name ≠ "" ∧ '/' ∉ name.toList) : Path.IsName name := by
  refine ⟨named.1, ?_, named.2⟩
  rintro rfl
  exact absurd visible (by decide)

theorem lt_levelsBelow_iff {path : String} {n : Nat} :
    n < levelsBelow root path children ↔
      ∃ c ∈ children, isSkipped c.1 = false ∧ n < levels root (childPath path c.1) c.2 := by
  induction children with
  | nil => simp [levelsBelow]
  | cons c rest ih =>
    obtain ⟨name, child⟩ := c
    rw [levelsBelow]
    split
    next skipped => simp [ih, skipped]
    next visible =>
      have either (a b : Nat) : n < max a b ↔ n < a ∨ n < b := by omega
      simp [either, ih, visible]

theorem get?_child (distinct : (children.map (·.1)).Nodup)
    (found : e.get? place = some (.directory children)) {c : String × Entry} (inside : c ∈ children) :
    e.get? (place ++ [c.1]) = some c.2 := by
  rw [Entry.get?_name found, OrderedMap.valueAt?_eq_some_iff distinct]
  exact inside

theorem exists_child (found : e.get? place = some (.directory children)) {more : List String}
    {inner : Entry} (there : e.get? (place ++ name :: more) = some inner) :
    ∃ child, (name, child) ∈ children := by
  rw [Entry.get?_append, found, Option.bind_some, Entry.get?] at there
  obtain ⟨child, named, _⟩ := Option.bind_eq_some_iff.1 there
  exact ⟨child, OrderedMap.mem_of_valueAt? named⟩

theorem lt_levels_iff {entry : Entry} (sound : entry.Sound) (found : e.get? place = some entry)
    (visible : ∀ s ∈ place, isSkipped s = false) (named : ∀ s ∈ place, Path.IsName s) {n : Nat} :
    n < levels root (String.intercalate "/" place) entry ↔
      ∃ rest, IsListed root e (place ++ rest) ∧ n ≤ rest.length := by
  induction sound generalizing place n with
  | file content =>
    rw [levels]
    refine iff_of_false (Nat.not_lt_zero n) ?_
    rintro ⟨rest, listed, _⟩
    obtain ⟨children, there⟩ := listed.found
    rw [Entry.get?_append, found, Option.bind_some] at there
    obtain rfl := Entry.get?_file ⟨_, there⟩
    cases there
  | @directory children distinct spelled _ ih =>
    -- What is listed below a child is listed below this directory with one name more.
    have child (c : String × Entry) (inside : c ∈ children) (shown : isSkipped c.1 = false) (k : Nat) :
        k < levels root (childPath (String.intercalate "/" place) c.1) c.2 ↔
          ∃ rest, IsListed root e (place ++ c.1 :: rest) ∧ k ≤ rest.length := by
      have name := isName_of_visible shown (spelled c inside)
      have below := @ih c inside (place ++ [c.1]) (get?_child distinct found inside)
        (by simpa [or_imp, forall_and, shown] using visible)
        (by simpa [or_imp, forall_and, name] using named) k
      rw [childPath_intercalate named]
      simpa only [List.append_assoc, List.singleton_append] using below
    rw [levels]
    split
    next reached =>
      have here : IsListed root e place := ⟨visible, (isReached_iff named).1 reached, children, found⟩
      cases n with
      | zero => exact iff_of_true (Nat.succ_pos _) ⟨[], by rwa [List.append_nil], Nat.le_refl 0⟩
      | succ k =>
        rw [Nat.succ_lt_succ_iff, lt_levelsBelow_iff]
        constructor
        · rintro ⟨c, inside, shown, deep⟩
          obtain ⟨rest, listed, long⟩ := (child c inside shown k).1 deep
          exact ⟨c.1 :: rest, listed, Nat.succ_le_succ long⟩
        · rintro ⟨rest, listed, long⟩
          cases rest with
          | nil => cases long
          | cons name rest =>
            obtain ⟨_, there⟩ := listed.found
            obtain ⟨c, inside⟩ := exists_child found there
            have shown := listed.visible name (by simp)
            exact ⟨(name, c), inside, shown,
              (child _ inside shown k).2 ⟨rest, listed, Nat.le_of_succ_le_succ long⟩⟩
    next hidden =>
      refine iff_of_false (Nat.not_lt_zero n) ?_
      rintro ⟨rest, listed, _⟩
      exact hidden ((isReached_iff named).2 (listed.reached.of_above (List.prefix_append _ _)))

end Places

end WorkspaceImport.Package
