import WorkspaceImport.Artifact.Json
import WorkspaceImport.Proofs.Json.Object
/-!
Null in legacy artifacts. A field that is null is read as one that is absent, with one exception: the
kind of a record is the text of whatever stands in its place, and null has a text.
-/
namespace WorkspaceImport

namespace Value

def isNull : Value → Bool
  | .null => true
  | _ => false

theorem isNull_iff {v : Value} : v.isNull = true ↔ v = .null := by
  cases v <;> simp [isNull]

/-- An object without the keys that have null beside them. -/
def withoutNulls (m : OrderedMap String Value) : OrderedMap String Value :=
  m.filter fun _ v => !v.isNull

theorem get?_withoutNulls (m : OrderedMap String Value) (name : String) :
    (withoutNulls m).get? name = (m.get? name).filter fun v => !v.isNull := by
  apply Option.ext
  intro v
  rw [withoutNulls, OrderedMap.get?_filter, Option.filter_eq_some_iff]

theorem filter_isNull_cases (o : Option Value) :
    (o = some .null ∧ o.filter (fun v => !v.isNull) = none) ∨
      (o ≠ some .null ∧ o.filter (fun v => !v.isNull) = o) := by
  match o with
  | none => exact .inr ⟨nofun, rfl⟩
  | some v =>
    rw [Option.filter_some, ne_eq, Option.some.injEq, ← isNull_iff]
    cases v.isNull <;> simp

end Value

namespace PackageInfo

open Value (fields withoutNulls)

theorem jsonTexts_filter_isNull (o : Option Value) :
    jsonTexts (o.filter fun v => !v.isNull) = jsonTexts o := by
  obtain ⟨rfl, gone⟩ | ⟨-, kept⟩ := Value.filter_isNull_cases o
  · rw [gone]
    rfl
  · rw [kept]

theorem jsonBuildFile_withoutNulls (m : OrderedMap String Value) :
    jsonBuildFile (fields (withoutNulls m)) = jsonBuildFile (fields m) := by
  simp only [jsonBuildFile, Value.field?_fields, Value.get?_withoutNulls]
  obtain ⟨null, gone⟩ | ⟨-, kept⟩ :=
    Value.filter_isNull_cases (m.get? "build_file_artifact_location")
  · rw [gone, null]
    rfl
  · rw [kept]

theorem kind_of_ofJson {m : OrderedMap String Value} {info : PackageInfo}
    (read : ofJson (.map (fields m)) = .ok info) :
    info.kind = (m.get? "kind").elim "" Value.display := by
  simp only [ofJson, Value.field?_fields] at read
  split at read
  next => cases read
  next =>
    split at read
    next => cases read
    next =>
      obtain ⟨_, _, read⟩ := except_bind_eq_ok.1 read
      obtain ⟨_, _, read⟩ := except_bind_eq_ok.1 read
      obtain ⟨_, _, ended⟩ := except_bind_eq_ok.1 read
      cases ended
      rfl

/-- A record, with the kind that null stands for where null stands for the kind. -/
def kindFrom (kind : Option Value) (info : PackageInfo) : PackageInfo :=
  if kind.any Value.isNull then { info with kind := Value.null.display } else info

theorem kindFrom_eq_self {kind : Option Value} (given : kind ≠ some .null) (info : PackageInfo) :
    info.kindFrom kind = info := by
  have other : ¬kind.any Value.isNull = true := by
    intro null
    obtain ⟨v, rfl, isNull⟩ := (Option.any_eq_true _ _).1 null
    exact given (congrArg some (Value.isNull_iff.1 isNull))
  rw [kindFrom, if_neg other]

theorem ofJson_eq_map_withoutNulls (m : OrderedMap String Value) :
    ofJson (.map (fields m)) =
      (ofJson (.map (fields (withoutNulls m)))).map (kindFrom (m.get? "kind")) := by
  simp only [ofJson, Value.field?_fields, Value.get?_withoutNulls, jsonTexts_filter_isNull,
    jsonBuildFile_withoutNulls]
  obtain ⟨null, gone⟩ | ⟨-, kept⟩ := Value.filter_isNull_cases (m.get? "label")
  · rw [gone, null]
    rfl
  · rw [kept]
    split
    next => rfl
    next =>
      split
      next => rfl
      next =>
        simp only [except_map_bind]
        obtain ⟨null, -⟩ | ⟨some, kept⟩ := Value.filter_isNull_cases (m.get? "kind")
        · simp only [null]
          rfl
        · simp only [kept, Except.map, pure, Except.pure, kindFrom_eq_self some]

/-- A null is as good as an absent field, but for the kind of a record that can be read: there it is the
text of null, and an absent kind is the empty text. -/
theorem ofJson_withoutNulls (m : OrderedMap String Value) :
    ofJson (.map (fields m)) =
        (ofJson (.map (fields (withoutNulls m)))).map (kindFrom (m.get? "kind")) ∧
      ((∀ info, ofJson (.map (fields m)) = .ok info ↔
          ofJson (.map (fields (withoutNulls m))) = .ok info) ↔
        (m.get? "kind" = some .null → ∃ fault, ofJson (.map (fields m)) = .error fault)) := by
  have both := ofJson_eq_map_withoutNulls m
  refine ⟨both, ?_, ?_⟩
  · intro same null
    cases read : ofJson (.map (fields m)) with
    | error fault => exact ⟨fault, rfl⟩
    | ok info =>
      have shown : info.kind = Value.null.display := by
        rw [kind_of_ofJson read, null]
        rfl
      have empty : info.kind = "" := by
        rw [kind_of_ofJson ((same info).1 read), Value.get?_withoutNulls, null]
        rfl
      rw [shown] at empty
      exact absurd empty (by decide)
  · intro fails info
    by_cases null : m.get? "kind" = some .null
    · obtain ⟨fault, refused⟩ := fails null
      rw [refused] at both ⊢
      cases other : ofJson (.map (fields (withoutNulls m))) with
      | error _ => exact ⟨nofun, nofun⟩
      | ok _ =>
        rw [other] at both
        cases both
    · have unchanged : kindFrom (m.get? "kind") = id := funext (kindFrom_eq_self null)
      rw [both, unchanged]
      cases ofJson (.map (fields (withoutNulls m))) <;> exact Iff.rfl

/-- An object that has null for its kind. -/
def nullKind : OrderedMap String Value :=
  .ofList [("label", .text "//a:a"), ("kind", .null)]

/-- Its record differs from that of the object without null. -/
theorem ofJson_nullKind :
    Json.read "\x7b\"label\": \"//a:a\", \"kind\": null\x7d" = .ok (.map (fields nullKind)) ∧
      ofJson (.map (fields nullKind)) = .ok ⟨"//a:a", [], [], [], "None", ""⟩ ∧
      ofJson (.map (fields (withoutNulls nullKind))) = .ok ⟨"//a:a", [], [], [], "", ""⟩ :=
  ⟨Value.eq_of_isMapOf (by decide +kernel), rfl, rfl⟩

end PackageInfo

end WorkspaceImport
