import WorkspaceImport.Proofs.Label
/-!
The canonical spelling of a target says which target it is. It keeps the parts of the label apart from
a target name that was left out, and two labels have the same one only if they have the same parts. In
one thing it differs: a package whose last segment is a name for all targets gets a wildcard for its
own target.
-/
namespace WorkspaceImport

namespace Label

variable {l m : Label}

theorem repository_canonical (l : Label) : l.canonical.repository = l.repository := by
  unfold canonical
  split <;> rfl

theorem packagePath_canonical (l : Label) : l.canonical.packagePath = l.packagePath := by
  unfold canonical
  split <;> rfl

theorem lastSegment_canonical (l : Label) : l.canonical.lastSegment = l.lastSegment := by
  rw [lastSegment, packagePath_canonical, lastSegment]

theorem isRecursive_canonical (l : Label) : l.canonical.isRecursive = l.isRecursive := by
  rw [isRecursive, lastSegment_canonical, isRecursive]

theorem targetName_canonical (l : Label) : l.canonical.targetName = l.targetName := by
  unfold canonical
  split
  next named =>
    simp only [isShort, Bool.and_eq_true, Option.isNone_iff_eq_none] at named
    rw [targetName, targetName, named.1.1]
    rfl
  next => rfl

theorem target_canonical (single : l.isRecursive = false) (path : l.packagePath ≠ "") :
    l.canonical.target = some l.targetName := by
  cases named : l.target with
  | none =>
    rw [canonical, if_pos (by simp [isShort, named, path, single])]
    rw [targetName, named]
    rfl
  | some t =>
    rw [canonical, if_neg (by simp [isShort, named]), targetName, named]
    rfl

theorem canonical_eq_iff (single : l.isRecursive = false) (path : l.packagePath ≠ "")
    (single' : m.isRecursive = false) (path' : m.packagePath ≠ "") :
    l.canonical = m.canonical ↔
      l.repository = m.repository ∧ l.packagePath = m.packagePath ∧ l.targetName = m.targetName := by
  constructor
  · intro same
    rw [← l.repository_canonical, ← l.packagePath_canonical, ← l.targetName_canonical, same,
      repository_canonical, packagePath_canonical, targetName_canonical]
    exact ⟨rfl, rfl, rfl⟩
  · rintro ⟨repository, packagePath, targetName⟩
    calc l.canonical
        = ⟨l.canonical.repository, l.canonical.packagePath, l.canonical.target⟩ := rfl
      _ = ⟨m.canonical.repository, m.canonical.packagePath, m.canonical.target⟩ := by
          rw [repository_canonical, packagePath_canonical, target_canonical single path,
            repository_canonical, packagePath_canonical, target_canonical single' path',
            repository, packagePath, targetName]
      _ = m.canonical := rfl

theorem WellFormed.text_inj (left : l.WellFormed) (right : m.WellFormed) :
    l.text = m.text ↔ l = m := by
  constructor
  · intro same
    have read := parse_text left
    rw [same, parse_text right] at read
    exact (Except.ok.inj read).symm
  · rintro rfl
    rfl

/-- The canonical spellings of two targets below packages with a path are equal exactly if the labels
have the same repository, path and target name. For every label the canonical spelling is read as a
label with the same parts, and is its own canonical spelling; a text that is no label keeps its
spelling too once the blanks around it are gone. -/
theorem canonical_complete :
    (∀ s t l m, parse s = .ok l → parse t = .ok m →
      l.isRecursive = false → l.packagePath ≠ "" → m.isRecursive = false → m.packagePath ≠ "" →
      (l.canonical.text = m.canonical.text ↔ l.repository = m.repository ∧
        l.packagePath = m.packagePath ∧ l.targetName = m.targetName)) ∧
    (∀ s l, parse s = .ok l → ∃ spelled, parse l.canonical.text = .ok spelled ∧
      spelled.canonical.text = l.canonical.text ∧ spelled.repository = l.repository ∧
      spelled.package = l.package ∧ spelled.targetName = l.targetName ∧
      spelled.isRecursive = l.isRecursive) ∧
    ∀ s, canonicalLabel (canonicalLabel s) = canonicalLabel s := by
  refine ⟨?_, ?_, canonicalLabel_canonicalLabel⟩
  · intro s t l m read read' single path single' path'
    have left := (wellFormed_of_parse read).canonical
    have right := (wellFormed_of_parse read').canonical
    rw [left.text_inj right]
    exact canonical_eq_iff single path single' path'
  · intro s l read
    refine ⟨l.canonical, parse_canonical read, ?_, l.repository_canonical, l.package_canonical,
      l.targetName_canonical, l.isRecursive_canonical⟩
    rw [canonical_canonical]

/-- A short label of an external repository and the same target in full, with blanks around it; a text
that is no label. -/
theorem canonical_complete_sample :
    canonicalLabel "@maven//a b/c" = canonicalLabel " @maven//a b/c:c " ∧
      canonicalLabel "@maven//a b/c" ≠ canonicalLabel "@maven//a b:c" ∧
      canonicalLabel (canonicalLabel " c ") = canonicalLabel " c " := by
  have first : parse "@maven//a b/c" = .ok ⟨"@maven", "a b/c", none⟩ := by decide +kernel
  have second : parse " @maven//a b/c:c " = .ok ⟨"@maven", "a b/c", some "c"⟩ := by decide +kernel
  have third : parse "@maven//a b:c" = .ok ⟨"@maven", "a b", some "c"⟩ := by decide +kernel
  obtain ⟨complete, _, stable⟩ := canonical_complete
  refine ⟨?_, ?_, stable " c "⟩
  · simp only [canonicalLabel, first, second]
    exact (complete _ _ _ _ first second (by decide +kernel) (by decide) (by decide +kernel)
      (by decide)).2 ⟨rfl, rfl, by decide +kernel⟩
  · simp only [canonicalLabel, first, third]
    intro same
    have parts := (complete _ _ _ _ first third (by decide +kernel) (by decide) (by decide +kernel)
      (by decide)).1 same
    exact absurd parts.2.1 (by decide)

/-- The canonical spelling is a wildcard when the label is, except for a label without a target name
whose package ends in a name for all targets. -/
theorem isWildcard_canonical_iff : l.canonical.isWildcard = l.isWildcard ↔
    ¬(l.isShort = true ∧ l.lastSegment ∈ wildcardNames) := by
  by_cases recursive : l.isRecursive = true
  · have plain : l.lastSegment ∉ wildcardNames := by
      rw [isRecursive, beq_iff_eq] at recursive
      rw [recursive]
      decide
    have wild : l.isWildcard = true := by rw [isWildcard, recursive, Bool.true_or]
    simp [canonical_eq_self wild, plain]
  · rw [Bool.not_eq_true] at recursive
    cases named : l.target with
    | some t =>
      have short : l.isShort = false := by rw [isShort, named]; rfl
      rw [canonical, short]
      simp
    | none =>
      have short : l.isShort = true := by rw [isShort, named]; rfl
      have single : l.isWildcard = false := by
        rw [isWildcard, recursive, named]
        rfl
      by_cases path : l.packagePath = ""
      · have segment : l.lastSegment ∉ wildcardNames := by
          rw [lastSegment, path]
          decide
        rw [canonical, path]
        simp [segment]
      · have target := target_canonical recursive path
        rw [targetName, named, Option.getD_none] at target
        rw [isWildcard, isRecursive_canonical, recursive, target, single, short]
        simp

end Label

end WorkspaceImport
