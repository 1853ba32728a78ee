import WorkspaceImport.Files.Tree
import WorkspaceImport.Proofs.OrderedMap
/-!
Entries of a file tree and the paths to them. In a tree of a file system the entries of a directory
have names of their own; what a name below a directory leads to is then the entry of that name.
-/
namespace WorkspaceImport

/-- Trees that a file system can hold. -/
inductive Entry.Sound : Entry → Prop where
  | file (content : ByteArray) : Sound (.file content)
  | directory {children : List (String × Entry)} (distinct : (children.map (·.1)).Nodup)
      (named : ∀ c ∈ children, c.1 ≠ "" ∧ '/' ∉ c.1.toList) (below : ∀ c ∈ children, Sound c.2) :
      Sound (.directory children)

namespace Entry

theorem sound_file (content : ByteArray) : (Entry.file content).Sound :=
  .file content

theorem sound_directory_iff {children : List (String × Entry)} :
    (Entry.directory children).Sound ↔ (children.map (·.1)).Nodup ∧
      (∀ c ∈ children, c.1 ≠ "" ∧ '/' ∉ c.1.toList) ∧ ∀ c ∈ children, c.2.Sound := by
  constructor
  · rintro ⟨⟩
    exact ⟨‹_›, ‹_›, ‹_›⟩
  · rintro ⟨distinct, named, below⟩
    exact .directory distinct named below

theorem get?_append (e : Entry) (place rest : List String) :
    e.get? (place ++ rest) = (e.get? place).bind (·.get? rest) := by
  induction place generalizing e with
  | nil => rfl
  | cons name more ih =>
    rw [List.cons_append]
    cases e with
    | file content => rfl
    | directory children =>
      rw [get?, get?]
      cases valueAt? name children with
      | none => rfl
      | some child => exact ih child

theorem get?_file {content : ByteArray} {place : List String}
    (found : ∃ e, (Entry.file content).get? place = some e) : place = [] := by
  cases place with
  | nil => rfl
  | cons name rest =>
    obtain ⟨e, found⟩ := found
    cases found

theorem get?_name {e : Entry} {place : List String} {children : List (String × Entry)}
    (found : e.get? place = some (.directory children)) (name : String) :
    e.get? (place ++ [name]) = valueAt? name children := by
  rw [get?_append, found, Option.bind_some, get?]
  cases valueAt? name children <;> rfl

end Entry

namespace FileTree

variable {files : FileTree} {root p : Path} {children : List (String × Entry)} {name : String}

theorem lookup_eq_ok_iff {e : Entry} :
    files.lookup p = .ok e ↔ spellingFault? p = none ∧
      ∃ place, files.root.locate (files.segmentsOf p) = .ok place ∧
        files.root.get? place = some e := by
  unfold lookup locate
  cases spellingFault? p with
  | some cause => simp [bind, Except.bind]
  | none =>
    cases files.root.locate (files.segmentsOf p) with
    | error cause => simp [bind, Except.bind]
    | ok place =>
      cases found : files.root.get? place with
      | none => simp [bind, Except.bind, found]
      | some e' => simp [bind, Except.bind, pure, Except.pure, found]

theorem spellingFault?_eq_none_iff :
    spellingFault? p = none ↔
      (∀ s ∈ p.segments, '\x00' ∉ s.toList) ∧ p.text.utf8ByteSize ≤ pathLimit := by
  unfold spellingFault?
  split
  next null =>
    have spoilt : ¬∀ s ∈ p.segments, '\x00' ∉ s.toList := by simpa using null
    simp [spoilt]
  next clean =>
    have plain : ∀ s ∈ p.segments, '\x00' ∉ s.toList := by simpa using clean
    split
    next long => simp [long]
    next short => exact iff_of_true rfl ⟨plain, Nat.le_of_not_lt short⟩

theorem segmentsOf_join : files.segmentsOf (root.join ⟨.relative, [name]⟩) =
    files.segmentsOf root ++ [name] := by
  obtain ⟨start, segments⟩ := root
  cases start <;> simp [segmentsOf, Path.join, Path.isAbsolute]

theorem lookup_name (found : files.lookup root = .ok (.directory children))
    (plain : name ≠ ".." ∧ '\x00' ∉ name.toList ∧ name.utf8ByteSize ≤ 255)
    (short : (root.join ⟨.relative, [name]⟩).text.utf8ByteSize ≤ pathLimit) :
    files.lookup (root.join ⟨.relative, [name]⟩) =
      match valueAt? name children with
      | some e => .ok e
      | none => .error .notFound := by
  obtain ⟨spelled, place, located, here⟩ := lookup_eq_ok_iff.1 found
  obtain ⟨parent, null, fits⟩ := plain
  have spelling : spellingFault? (root.join ⟨.relative, [name]⟩) = none := by
    refine spellingFault?_eq_none_iff.2 ⟨?_, short⟩
    have clean := (spellingFault?_eq_none_iff.1 spelled).1
    simpa [Path.join, Path.isAbsolute, or_imp, forall_and, null] using clean
  have stepped : files.root.locate (files.segmentsOf (root.join ⟨.relative, [name]⟩)) =
      files.root.step place name := by
    rw [Entry.locate] at located
    rw [segmentsOf_join, Entry.locate, List.foldlM_append, located]
    exact bind_pure (files.root.step place name)
  have one : files.root.step place name =
      if (valueAt? name children).isSome then .ok (place ++ [name]) else .error .notFound := by
    simp [Entry.step, here, parent, Nat.not_lt.2 fits]
  cases value : valueAt? name children with
  | none =>
    simp [lookup, locate, spelling, stepped, one, value, bind, Except.bind]
  | some e =>
    refine lookup_eq_ok_iff.2 ⟨spelling, place ++ [name], ?_, ?_⟩
    · simp [stepped, one, value]
    · rw [Entry.get?_name here, value]

theorem isFile_name_tooLong (found : files.lookup root = .ok (.directory children))
    (null : '\x00' ∉ name.toList)
    (long : ¬(root.join ⟨.relative, [name]⟩).text.utf8ByteSize ≤ pathLimit) :
    files.isFile (root.join ⟨.relative, [name]⟩) =
      .error ⟨.nameTooLong, (root.join ⟨.relative, [name]⟩).text⟩ := by
  obtain ⟨spelled, _⟩ := lookup_eq_ok_iff.1 found
  have clean : ∀ s ∈ (root.join ⟨.relative, [name]⟩).segments, '\x00' ∉ s.toList := by
    have clean := (spellingFault?_eq_none_iff.1 spelled).1
    simpa [Path.join, Path.isAbsolute, or_imp, forall_and, null] using clean
  have fault : spellingFault? (root.join ⟨.relative, [name]⟩) = some .nameTooLong := by
    rw [spellingFault?, if_neg (by simpa using clean), if_pos (Nat.lt_of_not_le long)]
  simp only [isFile, probe, lookup, locate, fault]
  rfl

theorem isFile_name (found : files.lookup root = .ok (.directory children))
    (plain : name ≠ ".." ∧ '\x00' ∉ name.toList ∧ name.utf8ByteSize ≤ 255)
    (short : (root.join ⟨.relative, [name]⟩).text.utf8ByteSize ≤ pathLimit) :
    files.isFile (root.join ⟨.relative, [name]⟩) =
      .ok ((valueAt? name children).any fun e => !e.isDirectory) := by
  rw [isFile, probe, lookup_name found plain short]
  cases valueAt? name children <;> rfl

theorem decodeUtf8_toUTF8 (s : String) : Text.decodeUtf8 s.toUTF8 = .ok s := by
  have decoded : String.fromUTF8? s.toUTF8 = some s := dif_pos s.isValidUTF8
  rw [Text.decodeUtf8, decoded]

theorem unixNewlinesFrom_of_not_mem {cs : List Char} (unix : '\r' ∉ cs) (done : List Char) :
    Text.unixNewlinesFrom done cs = done.reverse ++ cs := by
  induction cs generalizing done with
  | nil => simp [Text.unixNewlinesFrom]
  | cons c rest ih =>
    rw [List.mem_cons, not_or] at unix
    obtain ⟨differ, others⟩ := unix
    rw [Text.unixNewlinesFrom, if_neg (Ne.symm differ), ih others, List.reverse_cons,
      List.append_assoc, List.singleton_append]
    exact fun _ same => absurd same.symm differ

theorem readText_of_lookup {s : String} (found : files.lookup p = .ok (.file s.toUTF8))
    (unix : '\r' ∉ s.toList) : files.readText p = .ok s := by
  simp only [readText, readBytes, found, decodeUtf8_toUTF8, Text.unixNewlines,
    unixNewlinesFrom_of_not_mem unix]
  simp

end FileTree

end WorkspaceImport
