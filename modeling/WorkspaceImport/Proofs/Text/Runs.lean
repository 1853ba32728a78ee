import Mathlib.Data.List.TakeWhile
/-!
Runs at the beginning of a list: the elements up to the first one that fails a test, and what is left
behind them.
-/
namespace WorkspaceImport

variable {α : Type} {p : α → Bool} {cs behind : List α}

theorem head?_dropWhile_eq_false (p : α → Bool) (cs : List α) :
    ∀ c ∈ (cs.dropWhile p).head?, p c = false := by
  intro c first
  have stops := List.head?_dropWhile_not p cs
  rw [Option.mem_def.1 first] at stops
  exact stops

theorem span_eq (all : ∀ c ∈ cs, p c = true) (ends : ∀ c ∈ behind.head?, p c = false) :
    (cs ++ behind).takeWhile p = cs ∧ (cs ++ behind).dropWhile p = behind := by
  rw [List.takeWhile_append_of_pos all, List.dropWhile_append_of_pos all]
  cases behind with
  | nil => simp
  | cons c more =>
    have stops : p c = false := ends c rfl
    simp [stops]

end WorkspaceImport
