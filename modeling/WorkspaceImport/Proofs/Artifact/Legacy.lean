import WorkspaceImport.Aspect.Variant
import WorkspaceImport.Proofs.Json.Object
/-!
How the reading of legacy artifacts ends. All of them are needed, so the first one without a record
ends the reading. That is a failure of the run that wrote it, unless the artifact has a number or true
in the place of a list, or is nested too deep: then it is a failure of another kind.
-/
namespace WorkspaceImport

/-- Values that are not absent and have no members: true, and numbers other than zero. -/
inductive Value.IsBare : Value → Prop
  | true : IsBare (.bool true)
  | int {n : Int} (nonzero : n ≠ 0) : IsBare (.int n)
  | float {x : Binary64} (nonzero : x.isZero = false) : IsBare (.float x)

namespace PackageInfo

open Value (fields)

def listFields : List String :=
  ["sources", "dependencies", "generated_sources"]

def Labeled (m : OrderedMap String Value) : Prop :=
  ∃ label, m.get? "label" = some label ∧ label.isFalsy = false

def Unlisted (m : OrderedMap String Value) : Prop :=
  Labeled m ∧ ∃ name ∈ listFields, ∃ v, m.get? name = some v ∧ v.IsBare

theorem jsonTexts_of_isFalsy {v : Value} (falsy : v.isFalsy = true) : jsonTexts (some v) = .ok [] := by
  unfold jsonTexts
  exact if_pos falsy

theorem jsonTexts_eq_error_iff {o : Option Value} (isJson : ∀ v ∈ o, v.IsJson)
    {fault : JsonRecordFault} :
    jsonTexts o = .error fault ↔ ∃ v, o = some v ∧ v.IsBare ∧ fault = .notIterable v.typeName := by
  constructor
  · intro refused
    match o with
    | none => cases refused
    | some v =>
      by_cases falsy : v.isFalsy = true
      · rw [jsonTexts_of_isFalsy falsy] at refused
        cases refused
      · unfold jsonTexts at refused
        simp only [if_neg falsy] at refused
        cases isJson v rfl with
        | null => exact absurd rfl falsy
        | bool b =>
          cases refused
          cases b with
          | false => exact absurd rfl falsy
          | true => exact ⟨_, rfl, .true, rfl⟩
        | int n =>
          cases refused
          exact ⟨_, rfl, .int fun zero => falsy (beq_iff_eq.2 zero), rfl⟩
        | float x =>
          cases refused
          exact ⟨_, rfl, .float (Bool.eq_false_iff.2 falsy), rfl⟩
        | text => cases refused
        | list => cases refused
        | object => cases refused
  · rintro ⟨v, rfl, bare, rfl⟩
    cases bare with
    | true => rfl
    | int nonzero => simp [jsonTexts, Value.isFalsy, nonzero]
    | float nonzero => simp [jsonTexts, Value.isFalsy, nonzero]

variable {m : OrderedMap String Value}

theorem ofJson_of_not_labeled (unlabeled : ¬Labeled m) :
    ofJson (.map (fields m)) = .error .missingLabel := by
  simp only [ofJson, Value.field?_fields]
  cases found : m.get? "label" with
  | none => rfl
  | some label =>
    by_cases falsy : label.isFalsy = true
    · exact if_pos falsy
    · exact absurd ⟨label, found, Bool.eq_false_iff.2 falsy⟩ unlabeled

theorem ofJson_eq_error_iff (labeled : Labeled m) {fault : JsonRecordFault} :
    ofJson (.map (fields m)) = .error fault ↔
      listFields.mapM (fun name => jsonTexts (m.get? name)) = .error fault := by
  obtain ⟨label, found, given⟩ := labeled
  simp [ofJson, Value.field?_fields, found, given, listFields, except_bind_eq_error, pure,
    Except.pure]

theorem exists_notIterable_iff (isJson : (Value.map (fields m)).IsJson) :
    (∃ typeName, ofJson (.map (fields m)) = .error (.notIterable typeName)) ↔ Unlisted m := by
  have texts := fun name fault => @jsonTexts_eq_error_iff (m.get? name) (isJson.get? name) fault
  constructor
  · rintro ⟨typeName, refused⟩
    have labeled : Labeled m := by
      by_contra unlabeled
      rw [ofJson_of_not_labeled unlabeled] at refused
      cases refused
    obtain ⟨name, member, fault, stopped⟩ :=
      exists_mapM_eq_error_iff.1 ⟨_, (ofJson_eq_error_iff labeled).1 refused⟩
    obtain ⟨v, found, bare, _⟩ := (texts name fault).1 stopped
    exact ⟨labeled, name, member, v, found, bare⟩
  · rintro ⟨labeled, name, member, v, found, bare⟩
    have refused := (texts name (.notIterable v.typeName)).2 ⟨v, found, bare, rfl⟩
    obtain ⟨fault, failed⟩ := (exists_mapM_eq_error_iff
      (f := fun name => jsonTexts (m.get? name))).2 ⟨name, member, _, refused⟩
    -- The list that is refused may stand before this one, but it is refused for the same reason.
    obtain ⟨_, first, _, _, _, stopped⟩ := mapM_eq_error_iff.1 failed
    obtain ⟨w, _, _, rfl⟩ := (texts first fault).1 stopped
    exact ⟨w.typeName, (ofJson_eq_error_iff labeled).2 failed⟩

end PackageInfo

namespace Artifact

variable {files : FileTree} {paths : List Path} {path : Path}

/-- A file with an object that has a label, and a bare value in the place of a list. -/
def Unlisted (files : FileTree) (path : Path) : Prop :=
  ∃ document m, files.readText path = .ok document ∧
    Json.read document = .ok (.map (Value.fields m)) ∧ PackageInfo.Unlisted m

theorem exists_notIterable_iff :
    (∃ typeName, readJson files path = .error (.jsonRecord (.notIterable typeName))) ↔
      Unlisted files path := by
  constructor
  · rintro ⟨typeName, refused⟩
    unfold readJson at refused
    split at refused
    next => cases refused
    next document found =>
      split at refused
      next => cases refused
      next => cases refused
      next v read =>
        split at refused
        next fault wrong =>
          cases refused
          have isJson := Json.isJson_read read
          cases isJson with
          | object =>
            have unlisted :=
              (PackageInfo.exists_notIterable_iff (Json.isJson_read read)).1 ⟨_, wrong⟩
            exact ⟨document, _, found, read, unlisted⟩
          | _ => cases wrong
        next => cases refused
  · rintro ⟨document, m, found, read, unlisted⟩
    obtain ⟨typeName, wrong⟩ := (PackageInfo.exists_notIterable_iff (Json.isJson_read read)).2 unlisted
    refine ⟨typeName, ?_⟩
    simp only [readJson, found, read, wrong]

def Nested (files : FileTree) (path : Path) : Prop :=
  ∃ document, files.readText path = .ok document ∧ Json.read document = .error .nestedTooDeep

theorem readJson_nestedTooDeep_iff :
    readJson files path = .error .nestedTooDeep ↔ Nested files path := by
  constructor
  · intro refused
    unfold readJson at refused
    split at refused
    next => cases refused
    next document found =>
      split at refused
      next deep => exact ⟨document, found, deep⟩
      next => cases refused
      next => split at refused <;> cases refused
  · rintro ⟨document, found, deep⟩
    simp only [readJson, found, deep]

def FirstRefused (files : FileTree) (paths : List Path) (path : Path) (fault : ArtifactFault) : Prop :=
  ∃ before after, paths = before ++ path :: after ∧
    (∀ earlier ∈ before, ∃ info, readJson files earlier = .ok info) ∧
    readJson files path = .error fault

theorem FirstRefused.refused {fault : ArtifactFault} (first : FirstRefused files paths path fault) :
    readJson files path = .error fault := by
  obtain ⟨_, _, _, _, refused⟩ := first
  exact refused

theorem readAllJson_eq_ok_iff {infos : List PackageInfo} :
    readAllJson files paths = .ok infos ↔
      List.Forall₂ (fun path info => readJson files path = .ok info) paths infos := by
  rw [readAllJson, mapM_eq_ok_iff]
  simp only [except_mapError_eq_ok]

theorem readAllJson_eq_error_iff {fault : ArtifactFault} :
    readAllJson files paths = .error (path, fault) ↔ FirstRefused files paths path fault := by
  rw [readAllJson, mapM_eq_error_iff, FirstRefused]
  simp only [except_mapError_eq_ok, except_mapError_eq_error, Prod.mk.injEq]
  constructor
  · rintro ⟨before, x, after, split, answered, fault, refused, rfl, rfl⟩
    exact ⟨before, after, split, answered, refused⟩
  · rintro ⟨before, after, split, answered, refused⟩
    exact ⟨before, path, after, split, answered, fault, refused, rfl, rfl⟩

/-- How the reading of several artifacts ends. -/
inductive Reading (files : FileTree) (paths : List Path) : Except Failure Records → Prop
  | all {infos : List PackageInfo}
      (read : List.Forall₂ (fun path info => readJson files path = .ok info) paths infos) :
      Reading files paths (.ok (Records.ofInfos infos))
  | refused {path : Path} {fault : ArtifactFault} (first : FirstRefused files paths path fault)
      (listed : ¬Unlisted files path) (flat : ¬Nested files path) :
      Reading files paths (.error (.invocation (.artifact path fault) .empty))
  | unlisted {path : Path} {fault : ArtifactFault} (first : FirstRefused files paths path fault)
      (unlisted : Unlisted files path) : Reading files paths (.error (.kind .notIterable))
  | nested {path : Path} {fault : ArtifactFault} (first : FirstRefused files paths path fault)
      (nested : Nested files path) : Reading files paths (.error .nestedTooDeep)

section Failing

variable {fault : ArtifactFault} (refused : readJson files path = .error fault)
include refused

theorem artifactFailure_of_listed (listed : ¬Unlisted files path) (flat : ¬Nested files path) :
    Variant.artifactFailure path fault = .invocation (.artifact path fault) .empty := by
  unfold Variant.artifactFailure
  split
  next typeName => exact absurd (exists_notIterable_iff.1 ⟨typeName, refused⟩) listed
  next => exact absurd (readJson_nestedTooDeep_iff.1 refused) flat
  next => rfl

theorem artifactFailure_of_unlisted (unlisted : Unlisted files path) :
    Variant.artifactFailure path fault = .kind .notIterable := by
  obtain ⟨typeName, wrong⟩ := exists_notIterable_iff.2 unlisted
  rw [wrong] at refused
  cases refused
  rfl

theorem artifactFailure_of_nested (nested : Nested files path) :
    Variant.artifactFailure path fault = .nestedTooDeep := by
  rw [readJson_nestedTooDeep_iff.2 nested] at refused
  cases refused
  rfl

end Failing

theorem outcome_eq_iff {outcome : Except Failure Records} :
    (Variant.legacy.load files paths).outcome = outcome ↔ Reading files paths outcome := by
  constructor
  · rintro rfl
    cases found : readAllJson files paths with
    | ok infos =>
      simp only [Variant.load, found]
      exact .all (readAllJson_eq_ok_iff.1 found)
    | error stopped =>
      obtain ⟨path, fault⟩ := stopped
      have first := readAllJson_eq_error_iff.1 found
      simp only [Variant.load, found]
      by_cases unlisted : Unlisted files path
      · rw [artifactFailure_of_unlisted first.refused unlisted]
        exact .unlisted first unlisted
      by_cases nested : Nested files path
      · rw [artifactFailure_of_nested first.refused nested]
        exact .nested first nested
      · rw [artifactFailure_of_listed first.refused unlisted nested]
        exact .refused first unlisted nested
  · intro reading
    cases reading with
    | all read => simp only [Variant.load, readAllJson_eq_ok_iff.2 read]
    | refused first listed flat =>
      simp only [Variant.load, readAllJson_eq_error_iff.2 first,
        artifactFailure_of_listed first.refused listed flat]
    | unlisted first unlisted =>
      simp only [Variant.load, readAllJson_eq_error_iff.2 first,
        artifactFailure_of_unlisted first.refused unlisted]
    | nested first nested =>
      simp only [Variant.load, readAllJson_eq_error_iff.2 first,
        artifactFailure_of_nested first.refused nested]

end Artifact

end WorkspaceImport
