import Mathlib.Data.List.Nodup
import Mathlib.Data.List.Perm.Subperm
import WorkspaceImport.Proofs.Files.Directories
/-!
A file that is written as a whole or not at all. The new content goes through a temporary file, whose
name no entry of the directory has; whatever refuses the writing or the replacement, the temporary file
is gone afterwards, and the path holds either what it held or all of the new content.
-/
namespace WorkspaceImport.FileTree

variable {t t' : FileTree} {p : Path} {place : List String} {fresh : String}

/-! The name of the temporary file -/

theorem tried_injective : Function.Injective fun k : Nat => "tmp" ++ toString k ++ ".tmp" := by
  intro k j same
  have shown := (String.append_right_inj "tmp").1 ((String.append_left_inj ".tmp").1 same)
  have digits : Nat.toDigits 10 k = Nat.toDigits 10 j := by
    simpa [Nat.repr_eq_ofList_toDigits] using congrArg String.toList shown
  calc
    k = Nat.ofDigitChars 10 (Nat.toDigits 10 k) 0 := Nat.ofDigitChars_ten_toDigits.symm
    _ = Nat.ofDigitChars 10 (Nat.toDigits 10 j) 0 := by rw [digits]
    _ = j := Nat.ofDigitChars_ten_toDigits

theorem freshName_or_taken (taken : List String) (n : Nat) :
    freshName taken n ∉ taken ∨
      ∀ k < n, "tmp" ++ toString k ++ ".tmp" ∈ taken := by
  induction n with
  | zero => exact .inr fun k below => absurd below (Nat.not_lt_zero k)
  | succ n ih =>
    rw [freshName]
    by_cases used : "tmp" ++ toString n ++ ".tmp" ∈ taken
    · rw [if_pos (by simpa using used)]
      refine ih.imp_right fun earlier k below => ?_
      obtain before | rfl := Nat.lt_succ_iff_lt_or_eq.1 below
      · exact earlier k before
      · exact used
    · rw [if_neg (by simpa using used)]
      exact .inl used

theorem freshName_not_mem (taken : List String) : freshName taken (taken.length + 1) ∉ taken := by
  obtain free | used := freshName_or_taken taken (taken.length + 1)
  · exact free
  · let tried := (List.range (taken.length + 1)).map fun k => "tmp" ++ toString k ++ ".tmp"
    have distinct : tried.Nodup := List.Nodup.map tried_injective List.nodup_range
    have within : tried ⊆ taken := by
      intro name member
      obtain ⟨k, below, rfl⟩ := List.mem_map.1 member
      exact used k (List.mem_range.1 below)
    have fits : taken.length + 1 ≤ taken.length := by
      simpa [tried] using distinct.length_le_of_subset within
    omega

theorem kindAt?_freshName (here : t.root.kindAt? place = some .directory) :
    t.root.kindAt? (place ++ [freshName (t.childNames place) ((t.childNames place).length + 1)]) =
      none := by
  obtain ⟨children, found⟩ := Entry.kindAt?_eq_directory_iff.1 here
  have names : t.childNames place = children.map (·.1) := by rw [childNames, found]
  rw [Entry.kindAt?_eq_none_iff, Entry.get?_name found, names]
  exact valueAt?_eq_none_iff.2 (freshName_not_mem _)

/-! The temporary file -/

structure WithFile (fresh : List String) (content : ByteArray) (t t' : Entry) : Prop where
  free : t.kindAt? fresh = none
  file : t'.kindAt? fresh = some (.file content)
  rest (q : List String) : q ≠ fresh → t'.kindAt? q = t.kindAt? q

section WithFile

variable {t t' : Entry} {name : String} {content : ByteArray} {q : List String}

theorem kindAt?_put_file (here : t.kindAt? place = some .directory)
    (replaceable : t.kindAt? (place ++ [name]) ≠ some .directory) (content : ByteArray)
    (other : q ≠ place ++ [name]) :
    (t.put (.file content) (place ++ [name])).kindAt? q = t.kindAt? q := by
  by_cases below : place ++ [name] <+: q
  · have made := Entry.kindAt?_put_self here name (.file content)
    rw [Entry.kindAt?_below_file made below other]
    cases stands : t.kindAt? (place ++ [name]) with
    | none => exact (Entry.kindAt?_below_none stands below).symm
    | some k =>
      cases k with
      | file before => exact (Entry.kindAt?_below_file stands below other).symm
      | directory => exact absurd stands replaceable
  · exact Entry.kindAt?_put_other here _ below

theorem withFile_put (here : t.kindAt? place = some .directory)
    (free : t.kindAt? (place ++ [name]) = none) (content : ByteArray) :
    WithFile (place ++ [name]) content t (t.put (.file content) (place ++ [name])) :=
  ⟨free, Entry.kindAt?_put_self here name _, fun _ other =>
    kindAt?_put_file here (by simp [free]) content other⟩

theorem WithFile.within (more : WithFile place content t t') : t.Within t' := by
  constructor
  · intro q directory
    rw [more.rest q fun same => by simp [same, more.free] at directory, directory]
  · intro q present
    rw [more.rest q fun same => present (same ▸ more.free)]
    exact present

theorem WithFile.put (more : WithFile (place ++ [name]) content t t')
    (here : t.kindAt? place = some .directory) (content' : ByteArray) :
    WithFile (place ++ [name]) content' t (t'.put (.file content') (place ++ [name])) := by
  have still := more.within.directory here
  refine ⟨more.free, Entry.kindAt?_put_self still name _, fun q other => ?_⟩
  rw [kindAt?_put_file still (by simp [more.file]) content' other, more.rest q other]

theorem WithFile.erase (more : WithFile (place ++ [name]) content t t')
    (here : t.kindAt? place = some .directory) (q : List String) :
    (t'.erase (place ++ [name])).kindAt? q = t.kindAt? q := by
  have still := more.within.directory here
  by_cases below : place ++ [name] <+: q
  · rw [Entry.kindAt?_erase_below still below, Entry.kindAt?_below_none more.free below]
  · rw [Entry.kindAt?_erase_other still below, more.rest q fun same => below (same ▸ List.prefix_rfl)]

theorem kindAt?_eq_file_iff :
    t.kindAt? place = some (.file content) ↔ t.get? place = some (.file content) := by
  rw [Entry.kindAt?]
  cases t.get? place with
  | none => simp
  | some e => cases e <;> simp [Entry.kind]

end WithFile

/-! The replacement -/

theorem perform_replaceBy {source : List String} {e : Entry} {last : String}
    (found : t.root.get? source = some e) (placed : t.parentPlace p = .ok (place, some last))
    (replaceable : t.root.kindAt? (place ++ [last]) ≠ some .directory) :
    t.perform (replaceBy source p) =
      (.ok (), { t with root := (t.root.erase source).put e (place ++ [last]) }) := by
  unfold replaceBy
  rw [perform_get_bind, found, placed]
  simp only
  split
  next children stands =>
    exact absurd (Entry.kindAt?_eq_directory_iff.2 ⟨children, stands⟩) replaceable
  next free => rfl

theorem replaceBy_cases (t : FileTree) (source : List String) (p : Path) :
    (∃ e, t.perform (replaceBy source p) = (.error e, t)) ∨
    ∃ e place last, t.root.get? source = some e ∧ t.parentPlace p = .ok (place, some last) ∧
      t.root.kindAt? (place ++ [last]) ≠ some .directory := by
  unfold replaceBy
  rw [perform_get_bind]
  split
  next found => exact .inl ⟨_, rfl⟩
  next cause refused => exact .inl ⟨_, rfl⟩
  next directory placed => exact .inl ⟨_, rfl⟩
  next e place last found placed =>
    by_cases stands : t.root.kindAt? (place ++ [last]) = some .directory
    · obtain ⟨children, stands⟩ := Entry.kindAt?_eq_directory_iff.1 stands
      exact .inl ⟨⟨.isDirectory, p.text⟩, by rw [stands]; rfl⟩
    · exact .inr ⟨e, place, last, found, placed, stands⟩

/-- The path holds the bytes, and nothing else differs but directories above it, which are new. -/
structure Replaced (p : Path) (content : ByteArray) (t t' : FileTree) : Prop where
  here : t'.here = t.here
  holds : t'.readBytes p = .ok content
  others (place : List String) : t'.locate p ≠ .ok place → KeptAt p t t' place

/-- What giving a path a whole new file comes to: all of it, or nothing but directories above the path. -/
def Settles (p : Path) (written : Except OsError ByteArray) (t : FileTree) :
    Except OsError Unit × FileTree → Prop
  | (.ok (), t') => ∃ content, written = .ok content ∧ Replaced p content t t'
  | (.error _, t') => OnlyMade p t t'

theorem OnlyMade.replaced {t'' : FileTree} {content : ByteArray} (made : OnlyMade p t t')
    (replaced : Replaced p content t' t'') (within : t'.root.Within t''.root) :
    Replaced p content t t'' :=
  ⟨replaced.here.trans made.here, replaced.holds, fun place elsewhere =>
    (made.kept place).trans (replaced.others place elsewhere) replaced.here within⟩

section Replacement

variable {content : ByteArray} {name last : String}

theorem replaced_of_withFile (located : t.locate p.parent = .ok place)
    (here : t.root.kindAt? place = some .directory)
    (more : WithFile (place ++ [name]) content t.root t'.root) (stays : t'.here = t.here)
    {place' : List String} (placed : t'.parentPlace p = .ok (place', some last))
    (replaceable : t'.root.kindAt? (place' ++ [last]) ≠ some .directory) :
    t.root.Within ((t'.root.erase (place ++ [name])).put (.file content) (place' ++ [last])) ∧
      Replaced p content t { t' with
        root := (t'.root.erase (place ++ [name])).put (.file content) (place' ++ [last]) } := by
  obtain ⟨spelled, ends, down, led, -, fits⟩ := parentPlace_eq_ok_iff.1 placed
  -- the temporary file is on nobody's way
  obtain rfl : place = place' := by
    have leads := (locate_eq_ok_iff.1 (locate_within stays more.within located)).2
    exact Except.ok.inj (leads.symm.trans led)
  have before := more.erase here
  have directory := (before place).trans here
  have spare : (t'.root.erase (place ++ [name])).kindAt? (place ++ [last]) ≠ some .directory := by
    rw [before]
    exact fun stood => replaceable (more.within.directory stood)
  have made := Entry.kindAt?_put_self directory last (.file content)
  have within : t.root.Within
      ((t'.root.erase (place ++ [name])).put (.file content) (place ++ [last])) := by
    have kept := Entry.within_put directory last (.file content) spare
    exact ⟨fun stood => kept.directory ((before _).trans stood), fun stood =>
      kept.present (by rwa [before])⟩
  have leads : FileTree.locate { t' with
      root := (t'.root.erase (place ++ [name])).put (.file content) (place ++ [last]) } p =
      .ok (place ++ [last]) := by
    refine locate_put ?_ stays within (by simp [made])
    exact parentPlace_eq_ok_iff.2
      ⟨spelled, ends, down, (locate_eq_ok_iff.1 located).2, here, fits⟩
  refine ⟨within, stays, ?_, fun other elsewhere => ?_⟩
  · have found := lookup_eq_ok_iff.2 ⟨spelled, place ++ [last], (locate_eq_ok_iff.1 leads).2,
      kindAt?_eq_file_iff.1 made⟩
    simp only [readBytes, found]
  · have apart : other ≠ place ++ [last] := fun same => elsewhere (same ▸ leads)
    exact .inl ((kindAt?_put_file directory spare content apart).trans (before other))

end Replacement

theorem replaceWhole_settles (t : FileTree) (p : Path) (written : Except OsError ByteArray) :
    Settles p written t (t.perform (replaceWhole p written)) := by
  have made := ensureDirectories_onlyMade p.parent_isAbove p.segments.length t
  unfold replaceWhole
  rw [perform_bind]
  split
  next t₁ told =>
    rw [told] at made
    obtain ⟨place, located, here⟩ := isDirectory_eq_true_iff.1 (isDirectory_of_ensureDirectories told)
    rw [perform_get_bind]
    simp only [located]
    split
    next long => exact made
    next fits =>
      have free := kindAt?_freshName here
      have stored := withFile_put here free .empty
      generalize freshName (t₁.childNames place) ((t₁.childNames place).length + 1) = name at *
      rw [perform_set_bind, perform_tryCatch]
      cases written with
      | error e =>
        rw [perform_throw]
        exact made.trans ⟨rfl, fun q => .inl (stored.erase here q)⟩
      | ok content =>
        rw [perform_modify_bind]
        set t₂ : FileTree := { t₁ with
          root := (t₁.root.put (.file .empty) (place ++ [name])).put (.file content) (place ++ [name]) }
        have filled : WithFile (place ++ [name]) content t₁.root t₂.root := stored.put here content
        -- What is put in the place is the temporary file, with what was written to it.
        obtain ⟨e, refused⟩ | ⟨e, place', last, found, placed, replaceable⟩ :=
          replaceBy_cases t₂ (place ++ [name]) p
        · rw [refused]
          exact made.trans ⟨rfl, fun q => .inl (filled.erase here q)⟩
        · obtain rfl : .file content = e :=
            Option.some.inj ((kindAt?_eq_file_iff.1 filled.file).symm.trans found)
          have replaced := replaced_of_withFile located here filled rfl placed replaceable
          rw [perform_replaceBy found placed replaceable]
          exact ⟨content, rfl, made.replaced replaced.2 replaced.1⟩
  next e t₁ told =>
    rw [told] at made
    exact made

/-- The path can be given a new file: its directory is there and has room for the temporary file, its
name is one that a file can have, and no directory has it. -/
structure Takes (p : Path) (t : FileTree) : Prop where
  spelled : spellingFault? p = none
  directory : t.isDirectory p.parent = .ok true
  named : ∃ last, p.segments.getLast? = some last ∧ last ≠ ".." ∧ last.utf8ByteSize ≤ 255
  room (place : List String) : t.locate p.parent = .ok place → temporarySize p place ≤ pathLimit
  replaceable : t.isDirectory p ≠ .ok true

theorem replaceWhole_returns (takes : Takes p t) (content : ByteArray) :
    (t.perform (replaceWhole p (.ok content))).1 = .ok () := by
  obtain ⟨place, located, here⟩ := isDirectory_eq_true_iff.1 takes.directory
  obtain ⟨last, ends, down, fits⟩ := takes.named
  unfold replaceWhole
  rw [perform_bind, perform_ensureDirectories takes.directory]
  simp only [perform_get_bind, located, if_neg (Nat.not_lt.2 (takes.room place located))]
  have stored := withFile_put here (kindAt?_freshName here) .empty
  generalize freshName (t.childNames place) ((t.childNames place).length + 1) = name at *
  rw [perform_set_bind, perform_tryCatch, perform_modify_bind]
  set t₂ : FileTree := { t with
    root := (t.root.put (.file .empty) (place ++ [name])).put (.file content) (place ++ [name]) }
  have filled : WithFile (place ++ [name]) content t.root t₂.root := stored.put here content
  have leads (t' : FileTree) (stays : t'.here = t.here) (within : t.root.Within t'.root) :
      t'.parentPlace p = .ok (place, some last) :=
    parentPlace_eq_ok_iff.2 ⟨takes.spelled, ends, down,
      (locate_eq_ok_iff.1 (locate_within stays within located)).2, within.directory here, fits⟩
  have replaceable : t₂.root.kindAt? (place ++ [last]) ≠ some .directory := by
    intro stands
    have other : place ++ [last] ≠ place ++ [name] := fun same => by
      simp [same, filled.file] at stands
    rw [filled.rest _ other] at stands
    have reached := locate_put (leads t rfl .rfl) rfl .rfl (by simp [stands])
    exact takes.replaceable (isDirectory_eq_true_iff.2 ⟨_, reached, stands⟩)
  rw [perform_replaceBy (kindAt?_eq_file_iff.1 filled.file) (leads t₂ rfl filled.within) replaceable]

/-- Writing a text into a file. When it returns, the path holds the text in UTF-8; when it is refused, also
in the middle of writing, every file is as it was. Either way no file is left that was not there before,
and it does return where the path can take a file. -/
theorem writeAtomic_settles (t : FileTree) (p : Path) (content : String) :
    Settles p (.ok content.toUTF8) t (t.perform (writeAtomic p content)) ∧
      (∀ refusal, Settles p (.error refusal) t (t.perform (replaceWhole p (.error refusal)))) ∧
      (Takes p t → (t.perform (writeAtomic p content)).1 = .ok ()) :=
  ⟨replaceWhole_settles t p _, fun refusal => replaceWhole_settles t p (.error refusal),
    fun takes => replaceWhole_returns takes _⟩

/-- A workspace with a list of imports in it, as seen from inside. -/
def sample : FileTree :=
  ⟨.directory [("ws", .directory [("imports.yaml", .file "- //a".toUTF8)])], ["ws"]⟩

theorem writeAtomic_sample :
    let list : Path := ⟨.relative, ["imports.yaml"]⟩
    Takes list sample ∧
      (sample.perform (writeAtomic list "- //b")).1 = .ok () ∧
      Settles list (.ok "- //b".toUTF8) sample
        (sample.perform (writeAtomic list "- //b")) := by
  intro list
  have takes : Takes list sample := by
    refine ⟨by decide, by rfl, ⟨"imports.yaml", rfl, by decide, by decide⟩, fun place located => ?_,
      by decide⟩
    obtain rfl : ["ws"] = place := Except.ok.inj located
    decide
  exact ⟨takes, (writeAtomic_settles sample list "- //b").2.2 takes,
    (writeAtomic_settles sample list "- //b").1⟩

end WorkspaceImport.FileTree
