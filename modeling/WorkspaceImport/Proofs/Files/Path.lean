import WorkspaceImport.Files.Path
import Mathlib.Data.List.Basic
/-!
Paths that are written from their segments. Names that hold no slash come back as the segments of the
text in which slashes stand between them, so different paths are written differently.
-/
namespace WorkspaceImport.Path

structure IsName (s : String) : Prop where
  nonempty : s ≠ ""
  moves : s ≠ "."
  plain : '/' ∉ s.toList

theorem pieces_of_not_mem {cs : List Char} (plain : '/' ∉ cs) : pieces cs = [cs] := by
  induction cs with
  | nil => rfl
  | cons c rest ih =>
    obtain ⟨apart, later⟩ := not_or.1 (mt List.mem_cons.2 plain)
    rw [pieces, ih later]
    exact fun same => apart same.symm

theorem pieces_append {cs : List Char} (plain : '/' ∉ cs) (rest : List Char) :
    pieces (cs ++ '/' :: rest) = cs :: pieces rest := by
  induction cs with
  | nil => rfl
  | cons c more ih =>
    obtain ⟨apart, later⟩ := not_or.1 (mt List.mem_cons.2 plain)
    rw [List.cons_append, pieces, ih later]
    exact fun same => apart same.symm

theorem pieces_intercalate {names : List String} (nonempty : names ≠ [])
    (plain : ∀ s ∈ names, '/' ∉ s.toList) :
    pieces (String.intercalate "/" names).toList = names.map String.toList := by
  induction names with
  | nil => exact absurd rfl nonempty
  | cons s rest ih =>
    have first : '/' ∉ s.toList := plain s List.mem_cons_self
    cases rest with
    | nil => simpa using pieces_of_not_mem first
    | cons t more =>
      have others := ih (List.cons_ne_nil t more) fun u member =>
        plain u (List.mem_cons_of_mem s member)
      have written : (String.intercalate "/" (s :: t :: more)).toList =
          s.toList ++ '/' :: (String.intercalate "/" (t :: more)).toList := by
        rw [String.intercalate_cons_cons, String.toList_append, String.toList_append,
          List.append_assoc]
        rfl
      rw [written, pieces_append first, others]
      rfl

theorem segments_intercalate {names : List String} (named : ∀ s ∈ names, IsName s) :
    (ofString (String.intercalate "/" names)).segments = names := by
  cases names with
  | nil => rfl
  | cons s rest =>
    have segments : ((s :: rest).map String.toList).filter isSegment =
        (s :: rest).map String.toList := by
      apply List.filter_eq_self.2
      intro piece member
      obtain ⟨t, inside, rfl⟩ := List.mem_map.1 member
      have dot : t.toList ≠ ['.'] := fun same => (named t inside).moves (String.toList_inj.1 same)
      simpa [isSegment, dot] using (named t inside).nonempty
    rw [ofString, pieces_intercalate (List.cons_ne_nil s rest) fun t inside => (named t inside).plain,
      segments, List.map_map]
    simp

theorem intercalate_eq_empty_iff {names : List String} (named : ∀ s ∈ names, IsName s) :
    String.intercalate "/" names = "" ↔ names = [] := by
  constructor
  · intro empty
    rw [← segments_intercalate named, empty]
    rfl
  · rintro rfl
    rfl

theorem IsName.head {s : String} (named : IsName s) : ∃ c rest, s.toList = c :: rest ∧ c ≠ '/' := by
  cases chars : s.toList with
  | nil => exact absurd (String.toList_eq_nil_iff.1 chars) named.nonempty
  | cons c rest =>
    exact ⟨c, rest, rfl, fun same => named.plain (by rw [chars, same]; exact List.mem_cons_self)⟩

theorem ofString_intercalate {names : List String} (named : ∀ s ∈ names, IsName s) :
    ofString (String.intercalate "/" names) = ⟨.relative, names⟩ := by
  have start : rootOf (String.intercalate "/" names).toList = .relative := by
    cases names with
    | nil => rfl
    | cons s rest =>
      obtain ⟨c, first, chars, visible⟩ := (named s List.mem_cons_self).head
      have begins : ∃ more, (String.intercalate "/" (s :: rest)).toList = c :: more := by
        cases rest with
        | nil => exact ⟨first, by rw [String.intercalate_singleton, chars]⟩
        | cons t later =>
          rw [String.intercalate_cons_cons, String.append_assoc, String.toList_append, chars]
          exact ⟨_, rfl⟩
      obtain ⟨more, begins⟩ := begins
      rw [begins]
      unfold rootOf
      split <;> simp_all
  calc ofString (String.intercalate "/" names)
      = ⟨rootOf (String.intercalate "/" names).toList,
          (ofString (String.intercalate "/" names)).segments⟩ := rfl
    _ = ⟨.relative, names⟩ := by rw [start, segments_intercalate named]

theorem ofString_name {s : String} (named : IsName s) : ofString s = ⟨.relative, [s]⟩ := by
  have all : ∀ t ∈ [s], IsName t := fun t member => List.mem_singleton.1 member ▸ named
  rw [← ofString_intercalate all, String.intercalate_singleton]

theorem join_nil (p : Path) : p.join ⟨.relative, []⟩ = p := by
  simp [join, isAbsolute]

section Size

variable {names more : List String}

theorem utf8ByteSize_intercalate_append_le :
    (String.intercalate "/" names).utf8ByteSize ≤
      (String.intercalate "/" (names ++ more)).utf8ByteSize := by
  by_cases none : names = []
  · subst none
    exact Nat.zero_le _
  by_cases last : more = []
  · subst last
    exact Nat.le_of_eq (by rw [List.append_nil])
  · rw [String.intercalate_append_of_ne_nil none last, String.utf8ByteSize_append,
      String.utf8ByteSize_append]
    omega

theorem utf8ByteSize_text_append_le {n : Nat} {start : PathRoot} (positive : 0 < n)
    (fits : (text ⟨start, names ++ more⟩).utf8ByteSize ≤ n) :
    (text ⟨start, names⟩).utf8ByteSize ≤ n := by
  have inside := @utf8ByteSize_intercalate_append_le names more
  cases start with
  | relative =>
    cases names with
    | nil => exact positive
    | cons s rest => exact Nat.le_trans inside fits
  | slash =>
    simp only [text, String.utf8ByteSize_append] at fits ⊢
    omega
  | twoSlashes =>
    simp only [text, String.utf8ByteSize_append] at fits ⊢
    omega

end Size

end WorkspaceImport.Path
