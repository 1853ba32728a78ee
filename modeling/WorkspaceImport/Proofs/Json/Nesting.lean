import WorkspaceImport.Json.Reader
import WorkspaceImport.Proofs.Outcome
/-!
Documents that are nested too deep. A bracket that opens inside as many others as there may be stops
the reader, whatever comes after it; a text that is shorter than that has no such bracket.
-/
namespace WorkspaceImport.Json

theorem mapError_fault_ne {α : Type} (a : Except Fault α) :
    a.mapError Stop.fault ≠ .error .nestedTooDeep := by
  intro deep
  obtain ⟨_, _, same⟩ := except_mapError_eq_error.1 deep
  cases same

-- The induction is the recursion of the reader: what is left of the text gets shorter.
mutual

theorem readValue_ne_nestedTooDeep {depth : Nat} {cs : List Char} (short : cs.length ≤ depth) :
    readValue depth cs ≠ .error .nestedTooDeep := by
  intro deep
  unfold readValue at deep
  split at deep
  next => cases deep
  next =>
    rcases except_bind_eq_error.1 deep with text | ⟨_, _, ended⟩
    · exact mapError_fault_ne _ text
    · cases ended
  next =>
    split at deep
    next => cases short
    next =>
      rcases except_bind_eq_error.1 deep with inner | ⟨_, _, ended⟩
      · exact readItems_ne_nestedTooDeep (Nat.le_of_succ_le_succ short) inner
      · cases ended
  next =>
    split at deep
    next => cases short
    next =>
      rcases except_bind_eq_error.1 deep with inner | ⟨_, _, ended⟩
      · exact readMembers_ne_nestedTooDeep (Nat.le_of_succ_le_succ short) inner
      · cases ended
  next =>
    split at deep
    next => cases deep
    next =>
      split at deep
      next n _ _ => cases value : n.value <;> (rw [value] at deep; cases deep)
      next => cases deep
termination_by 2 * cs.length
decreasing_by all_goals (subst_vars; rw [List.length_cons]; omega)

theorem readItems_ne_nestedTooDeep {depth : Nat} {first : Bool} {done : List Value}
    {cs : List Char} (short : cs.length ≤ depth) :
    readItems depth first done cs ≠ .error .nestedTooDeep := by
  intro deep
  have within : (skipSpace cs).length ≤ cs.length := length_skipSpace_le cs
  unfold readItems at deep
  simp only at deep
  split at deep
  next => cases deep
  next =>
    rcases except_bind_eq_error.1 deep with item | ⟨⟨v, after⟩, _, ended⟩
    · exact readValue_ne_nestedTooDeep (Nat.le_trans within short) item
    · simp only at ended
      split at ended
      next more same =>
        have shorter := length_lt_of_skipSpace same
        have := after.2
        rcases except_bind_eq_error.1 ended with inner | ⟨_, _, ended⟩
        · exact readItems_ne_nestedTooDeep (by omega) inner
        · cases ended
      next => cases ended
      next => cases ended
termination_by 2 * cs.length + 1
decreasing_by all_goals omega

theorem readMembers_ne_nestedTooDeep {depth : Nat} {first : Bool} {done : List (Value × Value)}
    {cs : List Char} (short : cs.length ≤ depth) :
    readMembers depth first done cs ≠ .error .nestedTooDeep := by
  intro deep
  unfold readMembers at deep
  split at deep
  next rest opened =>
    have inside := length_lt_of_skipSpace opened
    rcases except_bind_eq_error.1 deep with key | ⟨⟨key, after⟩, _, deep⟩
    · exact mapError_fault_ne _ key
    have := after.2
    simp only at deep
    split at deep
    next more colon =>
      have shorter := length_lt_of_skipSpace colon
      have within := length_skipSpace_le more
      rcases except_bind_eq_error.1 deep with value | ⟨⟨v, after'⟩, _, deep⟩
      · exact readValue_ne_nestedTooDeep (by omega) value
      have := after'.2
      simp only at deep
      split at deep
      next more' comma =>
        have shorter' := length_lt_of_skipSpace comma
        rcases except_bind_eq_error.1 deep with inner | ⟨_, _, ended⟩
        · exact readMembers_ne_nestedTooDeep (by omega) inner
        · cases ended
      next => cases deep
      next => cases deep
    next => cases deep
  next => split at deep <;> cases deep
  next => cases deep
termination_by 2 * cs.length + 1
decreasing_by all_goals omega

end

/-- A text with no more characters than brackets may be open is never nested too deep. -/
theorem read_ne_nestedTooDeep {document : String} (short : document.toList.length ≤ nestingLimit) :
    read document ≠ .error .nestedTooDeep := by
  intro deep
  unfold read readChars at deep
  split at deep
  next => cases deep
  next =>
    rcases except_bind_eq_error.1 deep with value | ⟨⟨v, left⟩, _, ended⟩
    · exact readValue_ne_nestedTooDeep (Nat.le_trans (length_skipSpace_le _) short) value
    · simp only at ended
      split at ended <;> cases ended

theorem readValue_brackets (depth : Nat) (rest : List Char) :
    readValue depth (List.replicate (depth + 1) '[' ++ rest) = .error .nestedTooDeep := by
  induction depth with
  | zero =>
    rw [List.replicate_succ, List.cons_append, readValue]
  | succ depth ih =>
    have inner : readValue depth (skipSpace (List.replicate (depth + 1) '[' ++ rest)) =
        .error .nestedTooDeep := ih
    rw [List.replicate_succ, List.cons_append, readValue, readItems]
    refine except_bind_eq_error.2 (.inl ?_)
    rw [if_neg (by simp [List.replicate_succ, skipSpace, isSpace])]
    exact except_bind_eq_error.2 (.inl inner)

/-- One opening bracket too many at the beginning is enough, whatever comes after it. -/
theorem read_brackets (rest : String) :
    read (String.ofList (List.replicate (nestingLimit + 1) '[') ++ rest) =
      .error .nestedTooDeep := by
  have deep : readValue nestingLimit
      (skipSpace (List.replicate (nestingLimit + 1) '[' ++ rest.toList)) = .error .nestedTooDeep :=
    readValue_brackets nestingLimit rest.toList
  rw [read, readChars, String.toList_append, String.toList_ofList]
  rw [if_neg (by simp [List.replicate_succ])]
  exact except_bind_eq_error.2 (.inl deep)

end WorkspaceImport.Json
