import WorkspaceImport.Config.Load
import WorkspaceImport.Proofs.Files.Tree
import WorkspaceImport.Proofs.Label
import WorkspaceImport.Proofs.Value
/-!
What a configuration file makes of a configuration. Every setting has the value of its last entry in
the file or the standard one, of whatever kind that is. The check looks at two of them, and takes for
granted that they are texts.
-/
namespace WorkspaceImport

/-- Texts and bytes, which are all that blanks can be taken from. -/
def Value.HasEnds (v : Value) : Prop :=
  (∃ s, v = .text s) ∨ ∃ content, v = .bytes content

theorem Value.stripped?_eq_none_iff {v : Value} : v.stripped? = none ↔ ¬v.HasEnds := by
  cases v <;> simp [stripped?, HasEnds]

theorem Value.exists_stripped?_iff {v : Value} : (∃ plain, v.stripped? = some plain) ↔ v.HasEnds := by
  rw [← not_iff_not, ← stripped?_eq_none_iff, not_exists, Option.eq_none_iff_forall_ne_some]

namespace Config

def isFor (name : String) (e : Value × Value) : Bool :=
  e.1.text? == some name

/-- The value that a file has for a setting: the last one that it gives, or the standard one. -/
def setting (entries : List (Value × Value)) (name : String) : Value :=
  match (entries.filter (isFor name)).getLast? with
  | some e => e.2
  | none => (valueAt? name standard.toFields).getD .null

section Settings

variable {name : String}

@[simp] theorem isFor_text (other : String) (v : Value) :
    isFor name (.text other, v) = decide (other = name) := by
  by_cases same : other = name <;> simp [isFor, Value.text?, same]

theorem isKnown_of_isFor (known : name ∈ knownNames) {e : Value × Value}
    (given : isFor name e = true) : isKnown e.1 = true := by
  obtain ⟨k, v⟩ := e
  cases k with
  | text other =>
    obtain rfl : other = name := by simpa using given
    simpa [isKnown] using known
  | _ => cases given

theorem eq_of_known (known : name ∈ knownNames) :
    name = "bazel_executable" ∨ name = "command_timeout" ∨ name = "aspect_version" ∨
      name = "aspect_dir" ∨ name = "aspect_label" ∨ name = "src_path" ∨ name = "test_path" ∨
      name = "log_level" := by
  simpa [knownNames] using known

theorem toFields_put (known : name ∈ knownNames) (c : Config) (v : Value) :
    (c.put name v).toFields = WorkspaceImport.putEntry name v c.toFields := by
  rcases eq_of_known known with rfl | rfl | rfl | rfl | rfl | rfl | rfl | rfl <;> rfl

theorem valueAt?_extra (known : name ∈ knownNames) (c : Config) (extra : Value) :
    valueAt? name ({ c with extra := extra } : Config).toFields = valueAt? name c.toFields := by
  rcases eq_of_known known with rfl | rfl | rfl | rfl | rfl | rfl | rfl | rfl <;> rfl

theorem exists_standard (known : name ∈ knownNames) :
    ∃ v, valueAt? name standard.toFields = some v := by
  rcases eq_of_known known with rfl | rfl | rfl | rfl | rfl | rfl | rfl | rfl <;> exact ⟨_, rfl⟩

theorem valueAt?_foldl_putEntry (entries : List (Value × Value))
    (all : ∀ e ∈ entries, isKnown e.1 = true) (c : Config) :
    valueAt? name (entries.foldl putEntry c).toFields =
      (((entries.filter (isFor name)).getLast?).map (·.2)).or (valueAt? name c.toFields) := by
  induction entries generalizing c with
  | nil => rfl
  | cons e rest ih =>
    obtain ⟨first, others⟩ := List.forall_mem_cons.1 all
    obtain ⟨k, v⟩ := e
    rw [List.foldl_cons, ih others]
    match k, first with
    | .text other, first =>
      have among : other ∈ knownNames := by simpa [isKnown] using first
      rw [putEntry, toFields_put among, valueAt?_putEntry, List.filter_cons, isFor_text]
      by_cases same : other = name
      · simp only [same, decide_true, if_true, List.getLast?_cons]
        cases (rest.filter (isFor name)).getLast? <;> rfl
      · simp only [same, decide_false, if_false, Bool.false_eq_true]

theorem valueAt?_ofEntries (known : name ∈ knownNames) (entries : List (Value × Value)) :
    valueAt? name (ofEntries entries).toFields = some (setting entries name) := by
  have given : (entries.filter fun e => isKnown e.1).filter (isFor name) =
      entries.filter (isFor name) := by
    rw [List.filter_filter]
    apply List.filter_congr
    intro e _
    cases isIt : isFor name e with
    | false => rfl
    | true => exact isKnown_of_isFor known isIt
  have written := @valueAt?_foldl_putEntry name (entries.filter fun e => isKnown e.1)
    (fun _ member => (List.mem_filter.1 member).2) standard
  obtain ⟨v, standing⟩ := exists_standard known
  rw [ofEntries, valueAt?_extra known, written, given, setting, standing]
  cases (entries.filter (isFor name)).getLast? <;> rfl

end Settings

/-- Values that name a variant of the aspect. -/
def NamesVariant (v : Value) : Prop :=
  ∃ name, v = .text name ∧ Variant.plainName name ∈ aspectVersions

theorem isAspectVersion_iff {v : Value} : isAspectVersion v = true ↔ NamesVariant v := by
  cases v <;> simp [isAspectVersion, NamesVariant, Value.text?]

theorem isAspectVersion_of_stripped? {v plain : Value} (stripped : v.stripped? = some plain) :
    isAspectVersion plain = isAspectVersion v := by
  cases v with
  | text s =>
    cases stripped
    have again : Variant.plainName (Text.strip s) = Variant.plainName s := by
      rw [Variant.plainName, Text.strip, String.toList_ofList,
        Text.trim_eq_self (Text.trimmed_trim _), Variant.plainName]
    simp only [isAspectVersion, Value.text?, Option.any_some, again]
  | bytes content =>
    cases stripped
    rfl
  | _ => cases stripped

theorem NamesVariant.hasEnds {v : Value} (names : NamesVariant v) : v.HasEnds := by
  obtain ⟨name, rfl, _⟩ := names
  exact .inl ⟨name, rfl⟩

/-- What the check says of the two settings that it looks at. -/
inductive Checked (version executable : Value) : Except Failure Unit → Prop
  | accepted {plain : Value} (names : NamesVariant version)
      (stripped : executable.stripped? = some plain) (some : plain.isFalsy = false) :
      Checked version executable (.ok ())
  | unknownVersion (ends : version.HasEnds) (unknown : ¬NamesVariant version) :
      Checked version executable (.error (.config (.unknownVersion version)))
  | emptyExecutable {plain : Value} (names : NamesVariant version)
      (stripped : executable.stripped? = some plain) (none : plain.isFalsy = true) :
      Checked version executable (.error (.config .emptyExecutable))
  | noVersionText (endless : ¬version.HasEnds) : Checked version executable (.error (.kind .notText))
  | noExecutableText (names : NamesVariant version) (endless : ¬executable.HasEnds) :
      Checked version executable (.error (.kind .notText))

section Check

variable {c : Config}

theorem validate_of_noVersionText (endless : ¬c.aspectVersion.HasEnds) :
    c.validate = .error (.kind .notText) := by
  simp only [validate, Value.stripped?_eq_none_iff.2 endless]

theorem validate_of_unknown (ends : c.aspectVersion.HasEnds)
    (unknown : ¬NamesVariant c.aspectVersion) :
    c.validate = .error (.config (.unknownVersion c.aspectVersion)) := by
  obtain ⟨plain, stripped⟩ := Value.exists_stripped?_iff.2 ends
  have other : isAspectVersion c.aspectVersion = false :=
    Bool.eq_false_iff.2 fun named => unknown (isAspectVersion_iff.1 named)
  simp only [validate, stripped, isAspectVersion_of_stripped? stripped, other, Bool.not_false,
    if_true]

theorem validate_of_noExecutableText (names : NamesVariant c.aspectVersion)
    (endless : ¬c.bazelExecutable.HasEnds) : c.validate = .error (.kind .notText) := by
  obtain ⟨plain, stripped⟩ := Value.exists_stripped?_iff.2 names.hasEnds
  simp only [validate, stripped, isAspectVersion_of_stripped? stripped, isAspectVersion_iff.2 names,
    Value.stripped?_eq_none_iff.2 endless, Bool.not_true, Bool.false_eq_true, if_false]

theorem validate_of_names (names : NamesVariant c.aspectVersion) {executable : Value}
    (plain : c.bazelExecutable.stripped? = some executable) :
    c.validate = if executable.isFalsy then .error (.config .emptyExecutable) else .ok () := by
  obtain ⟨version, stripped⟩ := Value.exists_stripped?_iff.2 names.hasEnds
  simp only [validate, stripped, isAspectVersion_of_stripped? stripped, isAspectVersion_iff.2 names,
    plain, Bool.not_true, Bool.false_eq_true, if_false]

theorem validate_eq_iff {outcome : Except Failure Unit} :
    c.validate = outcome ↔ Checked c.aspectVersion c.bazelExecutable outcome := by
  constructor
  · rintro rfl
    by_cases ends : c.aspectVersion.HasEnds
    · by_cases names : NamesVariant c.aspectVersion
      · cases stripped : c.bazelExecutable.stripped? with
        | none =>
          have endless := Value.stripped?_eq_none_iff.1 stripped
          rw [validate_of_noExecutableText names endless]
          exact .noExecutableText names endless
        | some executable =>
          rw [validate_of_names names stripped]
          split
          next none => exact .emptyExecutable names stripped none
          next some => exact .accepted names stripped (Bool.eq_false_iff.2 some)
      · rw [validate_of_unknown ends names]
        exact .unknownVersion ends names
    · rw [validate_of_noVersionText ends]
      exact .noVersionText ends
  · intro checked
    cases checked with
    | accepted names stripped some =>
      rw [validate_of_names names stripped, some, if_neg Bool.false_ne_true]
    | unknownVersion ends unknown => exact validate_of_unknown ends unknown
    | emptyExecutable names stripped none =>
      rw [validate_of_names names stripped, if_pos none]
    | noVersionText endless => exact validate_of_noVersionText endless
    | noExecutableText names endless => exact validate_of_noExecutableText names endless

/-- The check passes or says what is wrong with the configuration, if there are texts or bytes in the
settings which it has to look at. -/
theorem Checked.says_iff {version executable : Value} {outcome : Except Failure Unit}
    (checked : Checked version executable outcome) :
    (outcome = .ok () ∨ ∃ fault, outcome = .error (.config fault)) ↔
      version.HasEnds ∧ (NamesVariant version → executable.HasEnds) := by
  cases checked with
  | accepted names stripped _ =>
    exact iff_of_true (.inl rfl)
      ⟨names.hasEnds, fun _ => Value.exists_stripped?_iff.1 ⟨_, stripped⟩⟩
  | unknownVersion ends unknown =>
    exact iff_of_true (.inr ⟨_, rfl⟩) ⟨ends, fun names => absurd names unknown⟩
  | emptyExecutable names stripped _ =>
    exact iff_of_true (.inr ⟨_, rfl⟩)
      ⟨names.hasEnds, fun _ => Value.exists_stripped?_iff.1 ⟨_, stripped⟩⟩
  | noVersionText endless =>
    refine iff_of_false ?_ fun both => endless both.1
    rintro (passes | ⟨fault, refused⟩)
    · cases passes
    · cases refused
  | noExecutableText names endless =>
    refine iff_of_false ?_ fun both => endless (both.2 names)
    rintro (passes | ⟨fault, refused⟩)
    · cases passes
    · cases refused

end Check

section Loading

variable {loader : Yaml.Loader} {files : FileTree} {path : String} {bytes : ByteArray}
  {entries : List (Value × Value)}

theorem yaml_loadBy (found : files.lookup (Path.ofString path) = .ok (.file bytes))
    (small : bytes.size ≤ Yaml.sizeLimit) (read : loader bytes = .ok (.map entries)) :
    Yaml.loadBy loader files (Path.ofString path) = ⟨[], .ok entries⟩ := by
  have within : ¬Yaml.sizeLimit < (Entry.file bytes).size := Nat.not_lt.2 small
  simp only [Yaml.loadBy, FileTree.probe, found, if_neg within, FileTree.readBytes,
    Yaml.mappingOfBytes, read, Yaml.mappingIn]

theorem ofEntries_nil : ofEntries [] = standard :=
  rfl

theorem validate_standard : standard.validate = .ok () :=
  validate_eq_iff.2 (.accepted ⟨"intellij", rfl, by decide⟩ rfl rfl)

theorem loadBy_eq_validate (found : files.lookup (Path.ofString path) = .ok (.file bytes))
    (small : bytes.size ≤ Yaml.sizeLimit) (read : loader bytes = .ok (.map entries)) :
    (loadBy loader files path).outcome =
      (ofEntries entries).validate.map fun _ => ofEntries entries := by
  simp only [loadBy, yaml_loadBy found small read]
  change (if entries.isEmpty then pure standard
    else (ofEntries entries).validate >>= fun _ => pure (ofEntries entries)) = _
  cases entries with
  -- The standard configuration is taken without a check, which it would pass.
  | nil =>
    rw [ofEntries_nil, validate_standard]
    rfl
  | cons e rest => cases (ofEntries (e :: rest)).validate <;> rfl

theorem taken_or_refused_iff {c : Config} :
    ((∃ d, (c.validate.map fun _ => c) = .ok d ∧ d.validate = .ok ()) ∨
        ∃ fault, (c.validate.map fun _ => c) = .error (.config fault)) ↔
      c.validate = .ok () ∨ ∃ fault, c.validate = .error (.config fault) := by
  cases said : c.validate with
  | ok _ => exact iff_of_true (.inl ⟨c, rfl, said⟩) (.inl rfl)
  | error f =>
    constructor
    · rintro (⟨d, taken, _⟩ | ⟨fault, refused⟩)
      · cases taken
      · cases refused
        exact .inr ⟨fault, rfl⟩
    · rintro (passes | ⟨fault, refused⟩)
      · cases passes
      · cases refused
        exact .inr ⟨fault, rfl⟩

/-- Whatever reads YAML: a configuration from a file in which it finds a mapping has in every setting
what the mapping has for it, and is taken if the check passes. So it is refused as a configuration or
taken, unless one of the two settings that the check looks at is none that blanks can be taken from. -/
theorem loadBy_outcome (found : files.lookup (Path.ofString path) = .ok (.file bytes))
    (small : bytes.size ≤ Yaml.sizeLimit) (read : loader bytes = .ok (.map entries)) :
    let c := ofEntries entries
    let version := setting entries "aspect_version"
    let executable := setting entries "bazel_executable"
    (∀ name ∈ knownNames, valueAt? name c.toFields = some (setting entries name)) ∧
      (loadBy loader files path).outcome = (c.validate.map fun _ => c) ∧
      (∀ outcome, c.validate = outcome ↔ Checked version executable outcome) ∧
      (((∃ d, (loadBy loader files path).outcome = .ok d ∧ d.validate = .ok ()) ∨
          ∃ fault, (loadBy loader files path).outcome = .error (.config fault)) ↔
        version.HasEnds ∧ (NamesVariant version → executable.HasEnds)) := by
  intro c version executable
  have loaded := loadBy_eq_validate found small read
  have versionKnown : "aspect_version" ∈ knownNames := by simp [knownNames]
  have executableKnown : "bazel_executable" ∈ knownNames := by simp [knownNames]
  have ofVersion : c.aspectVersion = version :=
    Option.some.inj (valueAt?_ofEntries versionKnown entries)
  have ofExecutable : c.bazelExecutable = executable :=
    Option.some.inj (valueAt?_ofEntries executableKnown entries)
  have checks : ∀ outcome, c.validate = outcome ↔ Checked version executable outcome := by
    intro outcome
    rw [validate_eq_iff, ofVersion, ofExecutable]
  refine ⟨fun _ known => valueAt?_ofEntries known entries, loaded, checks, ?_⟩
  rw [← ((checks _).1 rfl).says_iff, loaded]
  exact taken_or_refused_iff

/-- A directory with one configuration file. -/
def fileTree (document : String) : FileTree :=
  ⟨.directory [("c.yml", .file document.toUTF8)], []⟩

theorem lookup_fileTree (document : String) :
    (fileTree document).lookup (Path.ofString "/c.yml") = .ok (.file document.toUTF8) := by
  have segments : (Path.ofString "/c.yml").segments = ["c.yml"] := by decide +kernel
  have absolute : (Path.ofString "/c.yml").isAbsolute = true := by decide +kernel
  refine FileTree.lookup_eq_ok_iff.2 ⟨by decide +kernel, ["c.yml"], ?_, rfl⟩
  rw [FileTree.segmentsOf, if_pos absolute, segments]
  rfl

/-- A version in other letters, with blanks around it. -/
theorem loadBy_outcome_sample :
    ∃ c, (load (fileTree "aspect_version: ' BEF '") "/c.yml").outcome = .ok c ∧
      c.validate = .ok () := by
  have read : Yaml.safeLoad "aspect_version: ' BEF '".toUTF8 =
      .ok (.map [(.text "aspect_version", .text " BEF ")]) := Value.eq_of_isMapOf (by decide +kernel)
  obtain ⟨_, loaded, checks, _⟩ := loadBy_outcome (lookup_fileTree "aspect_version: ' BEF '")
    (by decide +kernel) read
  have passes := (checks (.ok ())).2 (.accepted ⟨_, rfl, by decide⟩ rfl rfl)
  exact ⟨_, loaded.trans (by rw [passes]; rfl), passes⟩

/-- A number for the version is not refused as a configuration: the check itself fails on it. -/
theorem loadBy_outcome_number :
    Yaml.safeLoad "aspect_version: 5\n".toUTF8 = .ok (.map [(.text "aspect_version", .int 5)]) ∧
      (load (fileTree "aspect_version: 5\n") "/c.yml").outcome = .error (.kind .notText) := by
  have read : Yaml.safeLoad "aspect_version: 5\n".toUTF8 =
      .ok (.map [(.text "aspect_version", .int 5)]) := Value.eq_of_isMapOf (by decide +kernel)
  refine ⟨read, ?_⟩
  rw [load, loadBy_eq_validate (lookup_fileTree "aspect_version: 5\n") (by decide +kernel) read]
  have endless : ¬(ofEntries [(.text "aspect_version", .int 5)]).aspectVersion.HasEnds :=
    Value.stripped?_eq_none_iff.1 rfl
  rw [validate_of_noVersionText endless]
  rfl

end Loading

end Config

end WorkspaceImport
