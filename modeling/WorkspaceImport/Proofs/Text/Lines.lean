import WorkspaceImport.Text.Lines
import Mathlib.Data.List.Basic
/-!
Lines that are printed with a line feed after each of them come back as they were. The last line feed
may be left out; then a last line without characters is not seen.
-/
namespace WorkspaceImport.Text

/-- A text within which no new line begins. -/
def IsLine (s : String) : Prop :=
  ∀ c ∈ s.toList, isLineBoundary c = false

instance (s : String) : Decidable (IsLine s) :=
  decidable_of_iff (s.toList.all fun c => !isLineBoundary c) (by simp [IsLine])

/-- Lines with line feeds between them, and perhaps with one more at the end. -/
def printed (ls : List String) (ended : Bool) : String :=
  String.intercalate "\n" ls ++ if ended then "\n" else ""

section Lines

variable {cs : List Char}

theorem linesFrom_cons {c : Char} (plain : isLineBoundary c = false) (done rest : List Char) :
    linesFrom done (c :: rest) = linesFrom (c :: done) rest := by
  have differ : c ≠ '\r' := by
    rintro rfl
    cases plain
  rw [linesFrom, plain, if_neg Bool.false_ne_true]
  exact fun _ same => absurd same differ

theorem linesFrom_lineFeed (done rest : List Char) :
    linesFrom done ('\n' :: rest) = done.reverse :: linesFrom [] rest := by
  rw [linesFrom]
  · rfl
  · exact fun _ same => absurd same (by decide)

variable (plain : ∀ c ∈ cs, isLineBoundary c = false)
include plain

theorem linesFrom_append (done rest : List Char) :
    linesFrom done (cs ++ rest) = linesFrom (cs.reverse ++ done) rest := by
  induction cs generalizing done with
  | nil => rfl
  | cons c more ih =>
    obtain ⟨first, later⟩ := List.forall_mem_cons.1 plain
    rw [List.cons_append, linesFrom_cons first, ih later, List.reverse_cons, List.append_assoc,
      List.singleton_append]

theorem linesFrom_line : linesFrom [] cs = if cs.isEmpty then [] else [cs] := by
  have whole := linesFrom_append plain [] []
  rw [List.append_nil, List.append_nil] at whole
  rw [whole, linesFrom, List.isEmpty_reverse, List.reverse_reverse]

theorem linesFrom_line_append (rest : List Char) :
    linesFrom [] (cs ++ '\n' :: rest) = cs :: linesFrom [] rest := by
  rw [linesFrom_append plain, linesFrom_lineFeed, List.append_nil, List.reverse_reverse]

end Lines

theorem printed_cons_cons (s t : String) (more : List String) (ended : Bool) :
    (printed (s :: t :: more) ended).toList =
      s.toList ++ '\n' :: (printed (t :: more) ended).toList := by
  simp [printed, String.intercalate_cons_cons, String.toList_append]

/-- Of what was printed on lines, somebody who makes nothing of an empty line keeps what there was to
keep on them, in their order. -/
theorem filterMap_lines_printed {α : Type} {keep? : String → Option α} (empty : keep? "" = none)
    {ls : List String} (plain : ∀ s ∈ ls, IsLine s) (ended : Bool) :
    (lines (printed ls ended)).filterMap keep? = ls.filterMap keep? := by
  induction ls with
  | nil =>
    cases ended with
    | false => rfl
    | true =>
      have one : lines (printed [] true) = [""] := rfl
      rw [one, List.filterMap_cons, empty]
  | cons s rest ih =>
    obtain ⟨first, later⟩ := List.forall_mem_cons.1 plain
    cases rest with
    | nil =>
      cases ended with
      | false =>
        have text : (printed [s] false).toList = s.toList := by simp [printed]
        rw [lines, text, linesFrom_line first]
        cases none : s.toList.isEmpty with
        | true =>
          have nothing : s = "" := by simpa using none
          rw [nothing, if_pos rfl, List.filterMap_cons, empty]
          rfl
        | false => simp
      | true =>
        have text : (printed [s] true).toList = s.toList ++ ['\n'] := by
          simp [printed, String.toList_append]
        rw [lines, text, linesFrom_line_append first]
        simp [linesFrom]
    | cons t more =>
      have others := ih later
      rw [lines] at others ⊢
      rw [printed_cons_cons, linesFrom_line_append first, List.map_cons, String.ofList_toList,
        List.filterMap_cons, List.filterMap_cons, others]

end WorkspaceImport.Text
