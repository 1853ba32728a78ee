import WorkspaceImport.Proofs.Files.Tree
import WorkspaceImport.Proofs.Outcome
/-!
What stands where in a file tree: a file with its content, or a directory, whatever is in it. Putting or
taking away the entry of one name in a directory changes nothing at the places that are not below the
name, and a path leads where it led as long as nothing on its way is gone.
-/
namespace WorkspaceImport

theorem valueAt?_filter_ne {κ ν : Type} [DecidableEq κ] (k k' : κ) (entries : List (κ × ν)) :
    valueAt? k' (entries.filter (·.1 ≠ k)) = if k = k' then none else valueAt? k' entries := by
  induction entries with
  | nil => simp [valueAt?]
  | cons e rest ih =>
    obtain ⟨j, w⟩ := e
    rw [List.filter_cons, valueAt?]
    by_cases same : j = k
    · subst same
      rw [if_neg (by simp), ih]
      split <;> rfl
    · rw [if_pos (by simpa using same), valueAt?, ih]
      by_cases asked : j = k'
      · subst asked
        rw [if_pos rfl, if_pos rfl, if_neg fun h => same h.symm]
      · rw [if_neg asked, if_neg asked]

namespace Entry

/-- What an entry is by itself. A directory is a directory, whatever it holds. -/
inductive Kind where
  | file (content : ByteArray)
  | directory

def kind : Entry → Kind
  | .file content => .file content
  | .directory _ => .directory

def kindAt? (t : Entry) (place : List String) : Option Kind :=
  (t.get? place).map kind

variable {t t' e : Entry} {place q segments : List String} {name segment : String}
  {children : List (String × Entry)}

@[simp] theorem kindAt?_nil : t.kindAt? [] = some t.kind :=
  rfl

@[simp] theorem kindAt?_cons : (directory children).kindAt? (name :: q) =
    (valueAt? name children).bind (·.kindAt? q) := by
  rw [kindAt?, get?]
  cases valueAt? name children <;> rfl

theorem kindAt?_eq_none_iff : t.kindAt? place = none ↔ t.get? place = none :=
  Option.map_eq_none_iff

theorem kindAt?_eq_directory_iff :
    t.kindAt? place = some .directory ↔ ∃ children, t.get? place = some (.directory children) := by
  rw [kindAt?, Option.map_eq_some_iff]
  constructor
  · rintro ⟨e, found, isDirectory⟩
    cases e with
    | file content => cases isDirectory
    | directory children => exact ⟨children, found⟩
  · rintro ⟨children, found⟩
    exact ⟨_, found, rfl⟩

theorem kindAt?_append (t : Entry) (place rest : List String) :
    t.kindAt? (place ++ rest) = (t.get? place).bind (·.kindAt? rest) := by
  rw [kindAt?, get?_append]
  cases t.get? place <;> rfl

theorem kindAt?_below_none (nothing : t.kindAt? place = none) (below : place <+: q) :
    t.kindAt? q = none := by
  obtain ⟨rest, rfl⟩ := below
  rw [kindAt?_append, kindAt?_eq_none_iff.1 nothing]
  rfl

theorem kindAt?_below_file {content : ByteArray} (file : t.kindAt? place = some (.file content))
    (below : place <+: q) (other : q ≠ place) : t.kindAt? q = none := by
  obtain ⟨rest, rfl⟩ := below
  obtain ⟨e, found, isFile⟩ := Option.map_eq_some_iff.1 file
  rw [kindAt?_append, found]
  cases e with
  | directory children => cases isFile
  | file content =>
    cases rest with
    | nil => simp at other
    | cons name rest => rfl

theorem kindAt?_cons_eq_directory {first : String} {more : List String}
    (here : t.kindAt? (first :: more) = some .directory) :
    ∃ children child, t = .directory children ∧ valueAt? first children = some child ∧
      child.kindAt? more = some .directory := by
  cases t with
  | file content => cases here
  | directory children =>
    rw [kindAt?_cons] at here
    obtain ⟨child, value, below⟩ := Option.bind_eq_some_iff.1 here
    exact ⟨children, child, rfl, value, below⟩

/-! Changing the entry of one name in a directory -/

/-- The trees agree but for the entry of a name in the directory at a place, which is another one in the
second tree, or none. -/
inductive Edits (name : String) (entry : Option Entry) : List String → Entry → Entry → Prop where
  | here {children children' : List (String × Entry)} (found : valueAt? name children' = entry)
      (others : ∀ other, name ≠ other → valueAt? other children' = valueAt? other children) :
      Edits name entry [] (.directory children) (.directory children')
  | within {first : String} {more : List String} {children : List (String × Entry)}
      {child child' : Entry} (value : valueAt? first children = some child)
      (edits : Edits name entry more child child') :
      Edits name entry (first :: more) (.directory children)
        (.directory (putEntry first child' children))

section Edits

variable {entry : Option Entry}

theorem Edits.kindAt?_below (edits : Edits name entry place t t') (rest : List String) :
    t'.kindAt? (place ++ [name] ++ rest) = entry.bind (·.kindAt? rest) := by
  induction edits with
  | here found others => simp [found]
  | within value edits ih => simpa [valueAt?_putEntry] using ih

theorem Edits.kindAt?_other (edits : Edits name entry place t t') (other : ¬place ++ [name] <+: q) :
    t'.kindAt? q = t.kindAt? q := by
  induction edits generalizing q with
  | here found others =>
    cases q with
    | nil => rfl
    | cons head rest =>
      have apart : name ≠ head := by simpa using other
      rw [kindAt?_cons, kindAt?_cons, others head apart]
  | @within first more _ _ _ value edits ih =>
    cases q with
    | nil => rfl
    | cons head rest =>
      rw [kindAt?_cons, kindAt?_cons, valueAt?_putEntry]
      by_cases same : first = head
      · subst same
        have further : ¬more ++ [name] <+: rest := by simpa using other
        simpa [value] using ih further
      · rw [if_neg same]

theorem put_edits (here : t.kindAt? place = some .directory) (name : String) (e : Entry) :
    Edits name (some e) place t (t.put e (place ++ [name])) := by
  induction place generalizing t with
  | nil =>
    obtain ⟨children, found⟩ := kindAt?_eq_directory_iff.1 here
    obtain rfl : t = .directory children := Option.some.inj found
    refine .here ?_ fun other apart => ?_
    · rw [valueAt?_putEntry, if_pos rfl, put]
    · rw [valueAt?_putEntry, if_neg apart]
  | cons first more ih =>
    obtain ⟨children, child, rfl, value, below⟩ := kindAt?_cons_eq_directory here
    simpa [put, value] using Edits.within value (ih below)

theorem erase_edits (here : t.kindAt? place = some .directory) (name : String) :
    Edits name none place t (t.erase (place ++ [name])) := by
  induction place generalizing t with
  | nil =>
    obtain ⟨children, found⟩ := kindAt?_eq_directory_iff.1 here
    obtain rfl : t = .directory children := Option.some.inj found
    refine .here ?_ fun other apart => ?_
    · rw [valueAt?_filter_ne, if_pos rfl]
    · rw [valueAt?_filter_ne, if_neg apart]
  | cons first more ih =>
    obtain ⟨children, child, rfl, value, below⟩ := kindAt?_cons_eq_directory here
    have inner := Edits.within value (ih below)
    -- there is always a name left below `first`
    cases more <;> simpa [erase, value] using inner

end Edits

theorem kindAt?_put_below (here : t.kindAt? place = some .directory) (e : Entry) (rest : List String) :
    (t.put e (place ++ [name])).kindAt? (place ++ [name] ++ rest) = e.kindAt? rest :=
  (put_edits here name e).kindAt?_below rest

theorem kindAt?_put_self (here : t.kindAt? place = some .directory) (name : String) (e : Entry) :
    (t.put e (place ++ [name])).kindAt? (place ++ [name]) = some e.kind := by
  simpa using kindAt?_put_below here e []

theorem kindAt?_put_other (here : t.kindAt? place = some .directory) (e : Entry)
    (other : ¬place ++ [name] <+: q) : (t.put e (place ++ [name])).kindAt? q = t.kindAt? q :=
  (put_edits here name e).kindAt?_other other

theorem kindAt?_erase_below (here : t.kindAt? place = some .directory)
    (below : place ++ [name] <+: q) : (t.erase (place ++ [name])).kindAt? q = none := by
  obtain ⟨rest, rfl⟩ := below
  exact (erase_edits here name).kindAt?_below rest

theorem kindAt?_erase_other (here : t.kindAt? place = some .directory)
    (other : ¬place ++ [name] <+: q) : (t.erase (place ++ [name])).kindAt? q = t.kindAt? q :=
  (erase_edits here name).kindAt?_other other

/-! Following a path -/

theorem step_eq_ok_iff : t.step place segment = .ok q ↔ t.kindAt? place = some .directory ∧
    (segment = ".." ∧ q = place.dropLast ∨
      segment ≠ ".." ∧ segment.utf8ByteSize ≤ 255 ∧ t.kindAt? (place ++ [segment]) ≠ none ∧
        q = place ++ [segment]) := by
  unfold step
  cases found : t.get? place with
  | none => simp [kindAt?, found]
  | some e =>
    cases e with
    | file content => simp [kindAt?, found, kind]
    | directory children =>
      have child : t.kindAt? (place ++ [segment]) = (valueAt? segment children).map kind := by
        rw [kindAt?, get?_name found]
      by_cases up : segment = ".."
      · simp [kindAt?, found, kind, up, eq_comm]
      · by_cases long : 255 < segment.utf8ByteSize
        · simp [up, long, Nat.not_le.2 long]
        · cases value : valueAt? segment children <;>
            simp [kindAt?_eq_directory_iff.2 ⟨children, found⟩, child, up, long, Nat.not_lt.1 long, value,
              eq_comm]

/-- Everything that stands in one tree stands in the other as well, and a directory as a directory. -/
structure Within (t t' : Entry) : Prop where
  directory {place : List String} : t.kindAt? place = some .directory →
    t'.kindAt? place = some .directory
  present {place : List String} : t.kindAt? place ≠ none → t'.kindAt? place ≠ none

theorem Within.rfl : t.Within t :=
  ⟨id, id⟩

theorem within_put (here : t.kindAt? place = some .directory) (name : String) (e : Entry)
    (replaceable : t.kindAt? (place ++ [name]) ≠ some .directory) :
    t.Within (t.put e (place ++ [name])) := by
  have kept {q : List String} (present : t.kindAt? q ≠ none) (other : q ≠ place ++ [name]) :
      (t.put e (place ++ [name])).kindAt? q = t.kindAt? q := by
    refine kindAt?_put_other here e fun below => present ?_
    cases stands : t.kindAt? (place ++ [name]) with
    | none => exact kindAt?_below_none stands below
    | some k =>
      cases k with
      | file content => exact kindAt?_below_file stands below other
      | directory => exact absurd stands replaceable
  constructor
  · intro q directory
    rw [kept (by simp [directory]) fun same => replaceable (same ▸ directory), directory]
  · intro q present
    by_cases same : q = place ++ [name]
    · rw [same, kindAt?_put_self here name e]
      simp
    · rw [kept present same]
      exact present

theorem Within.step (within : t.Within t') (stepped : t.step place segment = .ok q) :
    t'.step place segment = .ok q := by
  obtain ⟨here, up | ⟨down, fits, there, ends⟩⟩ := step_eq_ok_iff.1 stepped
  · exact step_eq_ok_iff.2 ⟨within.directory here, .inl up⟩
  · exact step_eq_ok_iff.2 ⟨within.directory here, .inr ⟨down, fits, within.present there, ends⟩⟩

theorem locate_concat : t.locate (segments ++ [segment]) =
    t.locate segments >>= fun place => t.step place segment := by
  rw [locate, locate, List.foldlM_append]
  exact bind_congr fun place => bind_pure (t.step place segment)

theorem Within.locate (within : t.Within t') (located : t.locate segments = .ok place) :
    t'.locate segments = .ok place := by
  induction segments using List.reverseRecOn generalizing place with
  | nil => exact located
  | append_singleton segments segment ih =>
    rw [locate_concat] at located ⊢
    obtain ⟨place', before, stepped⟩ := except_bind_eq_ok.1 located
    exact except_bind_eq_ok.2 ⟨place', ih before, within.step stepped⟩

end Entry

end WorkspaceImport
