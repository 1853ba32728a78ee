import Mathlib.Data.List.Forall2
/-!
Operations that answer or fail. One that is made of steps answers when every step does; going through
a list, it fails as the first element fails that does.
-/
namespace WorkspaceImport

section Outcome

variable {ε α β : Type}

theorem except_bind_eq_ok {a : Except ε α} {next : α → Except ε β} {y : β} :
    (a >>= next) = .ok y ↔ ∃ x, a = .ok x ∧ next x = .ok y := by
  cases a with
  | error e => exact ⟨nofun, nofun⟩
  | ok x =>
    constructor
    · exact fun rest => ⟨x, rfl, rest⟩
    · rintro ⟨_, same, rest⟩
      cases same
      exact rest

theorem except_bind_eq_error {a : Except ε α} {next : α → Except ε β} {e : ε} :
    (a >>= next) = .error e ↔ a = .error e ∨ ∃ x, a = .ok x ∧ next x = .error e := by
  cases a with
  | error e' =>
    constructor
    · intro stopped
      cases stopped
      exact .inl rfl
    · rintro (same | ⟨_, answered, _⟩)
      · cases same
        rfl
      · cases answered
  | ok x =>
    constructor
    · exact fun rest => .inr ⟨x, rfl, rest⟩
    · rintro (failed | ⟨_, same, rest⟩)
      · cases failed
      · cases same
        exact rest

theorem except_map_bind {γ : Type} (a : Except ε α) (next : α → Except ε β) (f : β → γ) :
    (a >>= next).map f = a >>= fun x => (next x).map f := by
  cases a <;> rfl

theorem except_map_eq_error {a : Except ε α} {f : α → β} {e : ε} :
    a.map f = .error e ↔ a = .error e := by
  cases a with
  | error e' => simp only [Except.map, Except.error.injEq]
  | ok x => exact iff_of_false nofun nofun

theorem eq_ok_of_toOption {a : Except ε α} {x : α} (found : a.toOption = some x) : a = .ok x := by
  cases a with
  | error e => cases found
  | ok y =>
    cases found
    rfl

section MapError

variable {ε' : Type} {a : Except ε α} {g : ε → ε'}

theorem except_mapError_eq_ok {x : α} : a.mapError g = .ok x ↔ a = .ok x := by
  cases a with
  | error e => exact ⟨nofun, nofun⟩
  | ok y => simp only [Except.mapError, Except.ok.injEq]

theorem except_mapError_eq_error {e' : ε'} :
    a.mapError g = .error e' ↔ ∃ e, a = .error e ∧ g e = e' := by
  cases a with
  | error e => simp only [Except.mapError, Except.error.injEq, exists_eq_left']
  | ok y => simp only [Except.mapError, reduceCtorEq, false_and, exists_false]

end MapError

variable {f : α → Except ε β} {xs : List α}

theorem mapM_eq_ok_iff {ys : List β} :
    xs.mapM f = .ok ys ↔ List.Forall₂ (fun x y => f x = .ok y) xs ys := by
  induction xs generalizing ys with
  | nil =>
    rw [List.mapM_nil, List.forall₂_nil_left_iff]
    exact ⟨fun same => (Except.ok.inj same).symm, fun same => congrArg Except.ok same.symm⟩
  | cons x rest ih =>
    simp only [List.mapM_cons, except_bind_eq_ok, List.forall₂_cons_left_iff, ih]
    constructor
    · rintro ⟨y, first, more, others, ended⟩
      exact ⟨y, more, first, others, (Except.ok.inj ended).symm⟩
    · rintro ⟨y, more, first, others, rfl⟩
      exact ⟨y, first, more, others, rfl⟩

theorem mapM_eq_error_iff {e : ε} :
    xs.mapM f = .error e ↔ ∃ before x after, xs = before ++ x :: after ∧
      (∀ y ∈ before, ∃ z, f y = .ok z) ∧ f x = .error e := by
  induction xs with
  | nil =>
    constructor
    · exact nofun
    · rintro ⟨before, x, after, split, _, _⟩
      exact absurd split.symm (List.append_ne_nil_of_right_ne_nil before nofun)
  | cons x rest ih =>
    rw [List.mapM_cons, except_bind_eq_error]
    constructor
    · rintro (stopped | ⟨y, first, failed⟩)
      · exact ⟨[], x, rest, rfl, nofun, stopped⟩
      · obtain later | ⟨_, _, ended⟩ := except_bind_eq_error.1 failed
        · obtain ⟨before, z, after, rfl, answered, stopped⟩ := ih.1 later
          exact ⟨x :: before, z, after, rfl, List.forall_mem_cons.2 ⟨⟨y, first⟩, answered⟩, stopped⟩
        · cases ended
    · rintro ⟨before, z, after, split, answered, stopped⟩
      cases before with
      | nil =>
        cases split
        exact .inl stopped
      | cons b before =>
        cases split
        obtain ⟨⟨y, first⟩, answered⟩ := List.forall_mem_cons.1 answered
        have later := ih.2 ⟨before, z, after, rfl, answered, stopped⟩
        exact .inr ⟨y, first, except_bind_eq_error.2 (.inl later)⟩

theorem exists_mapM_eq_error_iff :
    (∃ e, xs.mapM f = .error e) ↔ ∃ x ∈ xs, ∃ e, f x = .error e := by
  constructor
  · rintro ⟨e, failed⟩
    obtain ⟨before, x, after, rfl, _, stopped⟩ := mapM_eq_error_iff.1 failed
    exact ⟨x, List.mem_append_right before List.mem_cons_self, e, stopped⟩
  · rintro ⟨x, member, e, stopped⟩
    cases whole : xs.mapM f with
    | error e' => exact ⟨e', rfl⟩
    | ok ys =>
      have all : ∀ x ∈ xs, ∃ y, f x = .ok y :=
        ((List.forall₂_and_left _ _).1 ((mapM_eq_ok_iff.1 whole).imp fun _ y answered =>
          ⟨⟨y, answered⟩, answered⟩)).1
      obtain ⟨y, answered⟩ := all x member
      rw [answered] at stopped
      cases stopped

end Outcome

end WorkspaceImport
