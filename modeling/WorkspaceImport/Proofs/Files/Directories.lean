import WorkspaceImport.Proofs.Files.Kinds
/-!
Making a directory and those above it. Whether it succeeds or is refused, nothing but directories above
the path in question comes into being, and nothing that was there is touched.
-/
namespace WorkspaceImport

/-- The path without its last segment is above it, and so are the paths above that one. -/
def Path.IsAbove (q p : Path) : Prop :=
  q.root = p.root ∧ q.segments <+: p.parent.segments

theorem Path.parent_isAbove (p : Path) : p.parent.IsAbove p :=
  ⟨rfl, List.prefix_rfl⟩

theorem Path.IsAbove.parent {q p : Path} (above : q.IsAbove p) : q.parent.IsAbove p :=
  ⟨above.1, (List.dropLast_prefix q.segments).trans above.2⟩

namespace FileTree

variable {t t' t'' : FileTree} {p q : Path} {place : List String} {last : String}
  {children : List (String × Entry)}

/-! Operations one after the other -/

section Perform

variable {α β : Type} (t : FileTree)

theorem perform_bind (x : Action α) (f : α → Action β) : t.perform (x >>= f) =
    match t.perform x with
    | (.ok a, t') => t'.perform (f a)
    | (.error e, t') => (.error e, t') := by
  have unfolded : (x >>= f).run t = EStateM.bind x f t := rfl
  rw [perform, perform, unfolded, EStateM.bind, EStateM.run]
  cases x t <;> rfl

theorem perform_tryCatch (x : Action α) (handle : OsError → Action α) :
    t.perform (tryCatch x handle) =
    match t.perform x with
    | (.ok a, t') => (.ok a, t')
    | (.error e, t') => t'.perform (handle e) := by
  have unfolded : (tryCatch x handle : Action α).run t = EStateM.tryCatch x handle t := rfl
  rw [perform, perform, unfolded, EStateM.tryCatch, EStateM.run]
  cases x t <;> rfl

@[simp] theorem perform_get_bind (f : FileTree → Action α) :
    t.perform (get >>= f) = t.perform (f t) :=
  perform_bind t get f

@[simp] theorem perform_set_bind (t' : FileTree) (f : PUnit → Action α) :
    t.perform (set t' >>= f) = t'.perform (f ⟨⟩) :=
  perform_bind t (set t') f

@[simp] theorem perform_modify_bind (change : FileTree → FileTree) (f : PUnit → Action α) :
    t.perform (modify change >>= f) = (change t).perform (f ⟨⟩) :=
  perform_bind t (modify change) f

@[simp] theorem perform_throw (e : OsError) : t.perform (throw e : Action α) = (.error e, t) :=
  rfl

end Perform

/-! Places of paths -/

theorem segmentsOf_concat (ends : p.segments.getLast? = some last) :
    t.segmentsOf p = t.segmentsOf p.parent ++ [last] := by
  have split : p.segments = p.parent.segments ++ [last] :=
    (List.dropLast_append_getLast? last ends).symm
  have start : p.parent.isAbsolute = p.isAbsolute := rfl
  rw [segmentsOf, segmentsOf, start, split]
  cases p.isAbsolute <;> simp

theorem locate_eq_ok_iff : t.locate p = .ok place ↔
    spellingFault? p = none ∧ t.root.locate (t.segmentsOf p) = .ok place := by
  unfold locate
  cases spellingFault? p <;> simp

theorem locate_within (here : t'.here = t.here) (within : t.root.Within t'.root)
    (located : t.locate p = .ok place) : t'.locate p = .ok place := by
  obtain ⟨spelled, located⟩ := locate_eq_ok_iff.1 located
  refine locate_eq_ok_iff.2 ⟨spelled, ?_⟩
  rw [segmentsOf, here]
  exact within.locate located

theorem lookup_eq_directory_iff : (∃ children, t.lookup p = .ok (.directory children)) ↔
    ∃ place, t.locate p = .ok place ∧ t.root.kindAt? place = some .directory := by
  simp only [lookup_eq_ok_iff, locate_eq_ok_iff, Entry.kindAt?_eq_directory_iff]
  constructor
  · rintro ⟨children, spelled, place, located, found⟩
    exact ⟨place, ⟨spelled, located⟩, children, found⟩
  · rintro ⟨place, ⟨spelled, located⟩, children, found⟩
    exact ⟨children, spelled, place, located, found⟩

theorem parentPlace_eq_ok_iff : t.parentPlace p = .ok (place, some last) ↔
    spellingFault? p = none ∧ p.segments.getLast? = some last ∧ last ≠ ".." ∧
      t.root.locate (t.segmentsOf p.parent) = .ok place ∧ t.root.kindAt? place = some .directory ∧
      last.utf8ByteSize ≤ 255 := by
  unfold parentPlace
  cases spellingFault? p with
  | some cause => simp
  | none =>
    cases ends : p.segments.getLast? with
    | none => cases t.locate p <;> simp [bind, Except.bind, pure, Except.pure]
    | some name =>
      by_cases up : name = ".."
      · subst up
        cases t.locate p <;> simp +contextual [bind, Except.bind, pure, Except.pure, eq_comm]
      · have above : (t.segmentsOf p).dropLast = t.segmentsOf p.parent := by
          rw [segmentsOf_concat ends, List.dropLast_concat]
        simp only [above]
        cases t.root.locate (t.segmentsOf p.parent) with
        | error cause => simp [bind, Except.bind]
        | ok place' =>
          cases found : t.root.get? place' with
          | none =>
            have nothing : t.root.kindAt? place' ≠ some .directory := by simp [Entry.kindAt?, found]
            simp only [bind, Except.bind]
            grind
          | some e =>
            cases e with
            | file content =>
              have isFile : t.root.kindAt? place' ≠ some .directory := by
                simp [Entry.kindAt?, found, Entry.kind]
              simp only [bind, Except.bind]
              grind
            | directory children =>
              have here := Entry.kindAt?_eq_directory_iff.2 ⟨children, found⟩
              simp only [bind, Except.bind, pure, Except.pure]
              grind

/-! Making one directory -/

theorem makeDirectory_cases (t : FileTree) (q : Path) :
    (∃ e, t.perform (makeDirectory q) = (.error e, t)) ∨
    ∃ place last, t.parentPlace q = .ok (place, some last) ∧
      t.root.kindAt? (place ++ [last]) = none ∧ t.perform (makeDirectory q) =
        (.ok (), { t with root := t.root.put .emptyDirectory (place ++ [last]) }) := by
  unfold makeDirectory
  rw [perform_get_bind]
  split
  next cause refused => exact .inl ⟨_, rfl⟩
  next place directory => exact .inl ⟨_, rfl⟩
  next place last named =>
    split
    next found => exact .inl ⟨_, rfl⟩
    next free =>
      exact .inr ⟨place, last, named, Entry.kindAt?_eq_none_iff.2 (by simpa using free), rfl⟩

theorem perform_ensureDirectory (t : FileTree) (q : Path) : t.perform (ensureDirectory q) =
    match t.perform (makeDirectory q) with
    | (.ok (), t') => (.ok (), t')
    | (.error e, t') =>
      if e.cause ≠ .notFound ∧ t'.isDirectory q = .ok true then (.ok (), t') else (.error e, t') := by
  unfold ensureDirectory
  rw [perform_tryCatch]
  cases t.perform (makeDirectory q) with
  | mk answer t' =>
    cases answer with
    | ok => rfl
    | error e =>
      by_cases missing : e.cause = .notFound
      · simp [missing]
      · simp only [missing, if_false, perform_get_bind, ne_eq, not_false_eq_true, true_and]
        split
        next directory => rw [if_pos directory]; rfl
        next other => rw [if_neg other]; rfl

def KeptAt (p : Path) (t t' : FileTree) (place : List String) : Prop :=
  t'.root.kindAt? place = t.root.kindAt? place ∨
  t.root.kindAt? place = none ∧ t'.root.kindAt? place = some .directory ∧
    ∃ q : Path, q.IsAbove p ∧ t'.locate q = .ok place

/-- The trees differ in nothing but directories above a path, which are new. -/
structure OnlyMade (p : Path) (t t' : FileTree) : Prop where
  here : t'.here = t.here
  kept (place : List String) : KeptAt p t t' place

theorem OnlyMade.refl (p : Path) (t : FileTree) : OnlyMade p t t :=
  ⟨rfl, fun _ => .inl rfl⟩

theorem OnlyMade.within (made : OnlyMade p t t') : t.root.Within t'.root := by
  constructor
  · intro place directory
    obtain same | ⟨nothing, -, -⟩ := made.kept place
    · rw [same, directory]
    · rw [nothing] at directory
      cases directory
  · intro place present
    obtain same | ⟨nothing, -, -⟩ := made.kept place
    · rw [same]
      exact present
    · exact absurd nothing present

theorem KeptAt.trans (first : KeptAt p t t' place) (second : KeptAt p t' t'' place)
    (here : t''.here = t'.here) (within : t'.root.Within t''.root) : KeptAt p t t'' place := by
  obtain same | ⟨nothing, directory, q, above, led⟩ := first
  · obtain same' | ⟨nothing', directory', q, above, led⟩ := second
    · exact .inl (same'.trans same)
    · exact .inr ⟨same ▸ nothing', directory', q, above, led⟩
  · exact .inr ⟨nothing, within.directory directory, q, above, locate_within here within led⟩

theorem OnlyMade.trans (first : OnlyMade p t t') (second : OnlyMade p t' t'') : OnlyMade p t t'' :=
  ⟨second.here.trans first.here, fun place =>
    (first.kept place).trans (second.kept place) second.here second.within⟩

theorem locate_put (placed : t.parentPlace q = .ok (place, some last)) (here : t'.here = t.here)
    (within : t.root.Within t'.root) (stands : t'.root.kindAt? (place ++ [last]) ≠ none) :
    t'.locate q = .ok (place ++ [last]) := by
  obtain ⟨spelled, ends, down, located, directory, fits⟩ := parentPlace_eq_ok_iff.1 placed
  refine locate_eq_ok_iff.2 ⟨spelled, ?_⟩
  have led : t'.root.locate (t'.segmentsOf q.parent) = .ok place := by
    rw [segmentsOf, here]
    exact within.locate located
  rw [segmentsOf_concat ends, Entry.locate_concat]
  refine except_bind_eq_ok.2 ⟨place, led, ?_⟩
  exact Entry.step_eq_ok_iff.2 ⟨within.directory directory, .inr ⟨down, fits, stands, rfl⟩⟩

theorem makeDirectory_onlyMade (above : q.IsAbove p) (t : FileTree) :
    OnlyMade p t (t.perform (makeDirectory q)).2 := by
  obtain ⟨e, told⟩ | ⟨place, last, placed, free, told⟩ := makeDirectory_cases t q
  · rw [told]
    exact .refl p t
  · rw [told]
    obtain ⟨-, -, -, -, directory, -⟩ := parentPlace_eq_ok_iff.1 placed
    have made := Entry.kindAt?_put_self directory last .emptyDirectory
    refine ⟨rfl, fun other => ?_⟩
    by_cases same : other = place ++ [last]
    · subst same
      refine .inr ⟨free, made, q, above, locate_put placed rfl ?_ (by simp [made])⟩
      exact Entry.within_put directory last .emptyDirectory (by simp [free])
    · refine .inl ?_
      by_cases below : place ++ [last] <+: other
      · obtain ⟨rest, rfl⟩ := below
        cases rest with
        | nil => simp at same
        | cons name rest =>
          rw [Entry.kindAt?_below_none free (List.prefix_append _ _)]
          exact Entry.kindAt?_put_below directory .emptyDirectory (name :: rest)
      · exact Entry.kindAt?_put_other directory .emptyDirectory below

theorem ensureDirectory_onlyMade (above : q.IsAbove p) (t : FileTree) :
    OnlyMade p t (t.perform (ensureDirectory q)).2 := by
  have made := makeDirectory_onlyMade above t
  rw [perform_ensureDirectory]
  split
  next t' told => rwa [told] at made
  next e t' told =>
    rw [told] at made
    split <;> exact made

theorem ensureDirectories_onlyMade (above : q.IsAbove p) (depth : Nat) (t : FileTree) :
    OnlyMade p t (t.perform (ensureDirectories q depth)).2 := by
  induction depth generalizing q t with
  | zero => exact ensureDirectory_onlyMade above t
  | succ depth ih =>
    have first := ensureDirectory_onlyMade above t
    unfold ensureDirectories
    rw [perform_tryCatch]
    split
    next t' told => rwa [told] at first
    next e t' told =>
      rw [told] at first
      split
      next missing =>
        have higher := first.trans (ih above.parent t')
        rw [perform_bind]
        split
        next t'' told' =>
          rw [told'] at higher
          exact higher.trans (ensureDirectory_onlyMade above t'')
        next e' t'' told' => rwa [told'] at higher
      next other => exact first

/-! Directories that are there after a success -/

theorem isDirectory_eq_true_iff : t.isDirectory q = .ok true ↔
    ∃ place, t.locate q = .ok place ∧ t.root.kindAt? place = some .directory := by
  rw [← lookup_eq_directory_iff, isDirectory, probe]
  cases t.lookup q with
  | error cause => cases cause <;> simp [Except.map]
  | ok e => cases e <;> simp [Except.map, Entry.isDirectory]

theorem isDirectory_of_ensureDirectory (made : t.perform (ensureDirectory q) = (.ok (), t')) :
    t'.isDirectory q = .ok true := by
  rw [perform_ensureDirectory] at made
  obtain ⟨e, told⟩ | ⟨place, last, placed, free, told⟩ := makeDirectory_cases t q
  · rw [told] at made
    by_cases directory : e.cause ≠ .notFound ∧ t.isDirectory q = .ok true
    · simp only [if_pos directory, Prod.mk.injEq, true_and] at made
      exact made ▸ directory.2
    · simp [if_neg directory] at made
  · rw [told] at made
    obtain rfl := (Prod.mk.inj made).2
    obtain ⟨-, -, -, -, directory, -⟩ := parentPlace_eq_ok_iff.1 placed
    have stands := Entry.kindAt?_put_self directory last .emptyDirectory
    have within := Entry.within_put directory last .emptyDirectory (by simp [free])
    exact isDirectory_eq_true_iff.2
      ⟨place ++ [last], locate_put placed rfl within (by simp [stands]), stands⟩

theorem isDirectory_of_ensureDirectories {depth : Nat}
    (made : t.perform (ensureDirectories q depth) = (.ok (), t')) :
    t'.isDirectory q = .ok true := by
  cases depth with
  | zero => exact isDirectory_of_ensureDirectory made
  | succ depth =>
    unfold ensureDirectories at made
    rw [perform_tryCatch] at made
    split at made
    next t₁ told =>
      cases made
      exact isDirectory_of_ensureDirectory told
    next e t₁ told =>
      split at made
      next missing =>
        rw [perform_bind] at made
        split at made
        next t₂ higher => exact isDirectory_of_ensureDirectory made
        next e' t₂ higher => cases made
      next other => cases made

theorem parentPlace_of_locate {led : List String} (located : t.locate q = .ok led) :
    t.parentPlace q = .ok (led, none) ∨
    ∃ place last, t.parentPlace q = .ok (place, some last) ∧ led = place ++ [last] := by
  obtain ⟨spelled, found⟩ := locate_eq_ok_iff.1 located
  cases ends : q.segments.getLast? with
  | none =>
    exact .inl (by simp [parentPlace, spelled, ends, located, bind, Except.bind, pure, Except.pure])
  | some last =>
    by_cases up : last = ".."
    · subst up
      exact .inl (by simp [parentPlace, spelled, ends, located, bind, Except.bind, pure, Except.pure])
    · rw [segmentsOf_concat ends, Entry.locate_concat] at found
      obtain ⟨place, above, stepped⟩ := except_bind_eq_ok.1 found
      obtain ⟨directory, ⟨isUp, -⟩ | ⟨-, fits, -, rfl⟩⟩ := Entry.step_eq_ok_iff.1 stepped
      · exact absurd isUp up
      · exact .inr ⟨place, last,
          parentPlace_eq_ok_iff.2 ⟨spelled, ends, up, above, directory, fits⟩, rfl⟩

theorem makeDirectory_exists (directory : t.isDirectory q = .ok true) :
    t.perform (makeDirectory q) = (.error ⟨.exists, q.text⟩, t) := by
  obtain ⟨led, located, stands⟩ := isDirectory_eq_true_iff.1 directory
  unfold makeDirectory
  rw [perform_get_bind]
  obtain placed | ⟨place, last, placed, rfl⟩ := parentPlace_of_locate located
  · simp [placed]
  · obtain ⟨children, found⟩ := Entry.kindAt?_eq_directory_iff.1 stands
    simp [placed, found]

theorem perform_ensureDirectories (directory : t.isDirectory q = .ok true) (depth : Nat) :
    t.perform (ensureDirectories q depth) = (.ok (), t) := by
  have once : t.perform (ensureDirectory q) = (.ok (), t) := by
    rw [perform_ensureDirectory, makeDirectory_exists directory]
    simp [directory]
  cases depth with
  | zero => exact once
  | succ depth =>
    unfold ensureDirectories
    rw [perform_tryCatch, once]

end FileTree

end WorkspaceImport
