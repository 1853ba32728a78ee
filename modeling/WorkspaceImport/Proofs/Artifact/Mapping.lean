import WorkspaceImport.Artifact.IdeInfo
import WorkspaceImport.Proofs.OrderedMap
import WorkspaceImport.Proofs.Outcome
/-!
What a message of the modern artifact format says. A few fields of it make up the record, and of a
list of messages every one counts that says something; all the rest may be left out. A message is no
record exactly when it has no label, a message where a text is read, or a text among messages.
-/
namespace WorkspaceImport

open TextFormat (Item Message)

namespace IdeInfo

def textAt (m : Message) (path : List String) : String :=
  match follow? (.message m) path with
  | some (.scalar s) => s
  | _ => ""

def HasMessageAt (m : Message) (path : List String) : Prop :=
  ∃ fields, follow? (.message m) path = some (.message fields)

def messagesIn (name : String) (m : Message) : List Message :=
  (valuesOf name m).filterMap fun item =>
    match item with
    | .message fields => some fields
    | .scalar _ => none

def sourcesIn (m : Message) : List Message :=
  match first? "java_ide_info" m with
  | some (.message info) => messagesIn "sources" info
  | _ => []

def distinctTexts (texts : List String) : List String :=
  (texts.filter (· ≠ "")).eraseDups

def isGenerated (artifact : Message) : Bool :=
  textAt artifact ["is_source"] == "false"

def directoryIn (artifact : Message) : String :=
  String.ofList (directoryOf (joinPath (textAt artifact ["root_execution_path_fragment"]).toList
    (textAt artifact ["relative_path"]).toList))

def artifactsIn (m : Message) : List Message :=
  (sourcesIn m).filter fun artifact => textAt artifact ["relative_path"] ≠ ""

/-- The texts for which a message about an artifact is asked: its path, if it has one whether it is a
source, and if it is none its root. -/
inductive Asks (artifact : Message) : String → Prop where
  | path : Asks artifact "relative_path"
  | source (given : textAt artifact ["relative_path"] ≠ "") : Asks artifact "is_source"
  | root (given : textAt artifact ["relative_path"] ≠ "")
      (generated : textAt artifact ["is_source"] = "false") :
      Asks artifact "root_execution_path_fragment"

/-- What keeps a message from being a record. -/
inductive Misfit (m : Message) : IdeInfoFault → Prop where
  | noLabel (none : follow? (.message m) ["key", "label"] = none) : Misfit m .missingLabel
  | emptyLabel (empty : follow? (.message m) ["key", "label"] = some (.scalar "")) :
      Misfit m .missingLabel
  | text {path : List String} (read : path ∈ [["key", "label"], ["kind_string"],
        ["build_file_artifact_location", "relative_path"]])
      (found : HasMessageAt m path) : Misfit m (.notScalar path)
  | dependency {d : Message} (member : d ∈ messagesIn "dependencies" m)
      (found : HasMessageAt d ["target", "label"]) : Misfit m (.notScalar ["target", "label"])
  | artifact {a : Message} (member : a ∈ sourcesIn m) {name : String} (read : Asks a name)
      (found : HasMessageAt a [name]) : Misfit m (.notScalar [name])
  | list {name : String} (read : name ∈ ["dependencies", "java_ide_info"]) {s : String}
      (found : .scalar s ∈ valuesOf name m) : Misfit m (.notMessage name)
  | sources {info : Message} (first : first? "java_ide_info" m = some (.message info)) {s : String}
      (found : .scalar s ∈ valuesOf "sources" info) : Misfit m (.notMessage "sources")

section Reading

variable {m : Message} {path : List String} {name : String} {fault : IdeInfoFault}

theorem first?_eq_head? (name : String) (m : Message) : first? name m = (valuesOf name m).head? := by
  induction m with
  | nil => rfl
  | cons field rest ih =>
    obtain ⟨n, item⟩ := field
    by_cases same : n = name
    · simp [first?, valuesOf, same]
    · simpa [first?, valuesOf, same] using ih

theorem scalarAt_eq_ok_iff {s : String} :
    scalarAt m path = .ok s ↔ ¬HasMessageAt m path ∧ s = textAt m path := by
  unfold scalarAt HasMessageAt textAt
  cases follow? (.message m) path with
  | none => simp [eq_comm]
  | some item => cases item <;> simp [eq_comm]

theorem scalarAt_eq_error_iff :
    scalarAt m path = .error fault ↔ HasMessageAt m path ∧ fault = .notScalar path := by
  unfold scalarAt HasMessageAt
  cases follow? (.message m) path with
  | none => simp
  | some item => cases item <;> simp [eq_comm]

theorem messagesOf_eq_ok_iff {ms : List Message} :
    messagesOf name m = .ok ms ↔ (∀ s, .scalar s ∉ valuesOf name m) ∧ ms = messagesIn name m := by
  unfold messagesOf messagesIn
  rw [mapM_eq_ok_iff]
  induction valuesOf name m generalizing ms with
  | nil => simp
  | cons item rest ih =>
    cases item with
    | scalar s =>
      simp only [List.forall₂_cons_left_iff, reduceCtorEq, false_and, exists_false,
        List.mem_cons, false_iff, not_and]
      exact fun plain => absurd (.inl rfl) (plain s)
    | message fields =>
      simp only [List.forall₂_cons_left_iff, Except.ok.injEq, ih, List.mem_cons, reduceCtorEq,
        false_or, List.filterMap_cons]
      constructor
      · rintro ⟨_, _, rfl, ⟨plain, rfl⟩, rfl⟩
        exact ⟨plain, rfl⟩
      · rintro ⟨plain, rfl⟩
        exact ⟨_, _, rfl, ⟨plain, rfl⟩, rfl⟩

theorem messagesOf_eq_error (failed : messagesOf name m = .error fault) :
    ∃ s, .scalar s ∈ valuesOf name m ∧ fault = .notMessage name := by
  obtain ⟨before, item, after, split, _, stopped⟩ := mapM_eq_error_iff.1 failed
  cases item with
  | message fields => cases stopped
  | scalar s =>
    cases stopped
    exact ⟨s, by rw [split]; exact List.mem_append_right before List.mem_cons_self, rfl⟩

end Reading

section Artifacts

variable {a m : Message} {fault : IdeInfoFault}

def artifactOf (a : Message) : Option Artifact :=
  if textAt a ["relative_path"] = "" then none
  else if isGenerated a then some (.generated (directoryIn a))
  else some (.source (textAt a ["relative_path"]))

theorem artifact?_eq_ok {found : Option Artifact} (read : artifact? a = .ok found) :
    found = artifactOf a ∧ ∀ name, Asks a name → ¬HasMessageAt a [name] := by
  simp only [artifact?, except_bind_eq_ok, scalarAt_eq_ok_iff] at read
  obtain ⟨relative, ⟨path, rfl⟩, read⟩ := read
  unfold artifactOf
  split at read
  next none =>
    have empty : textAt a ["relative_path"] = "" := by simpa using none
    cases read
    rw [if_pos empty]
    refine ⟨rfl, ?_⟩
    rintro _ (_ | given | ⟨given, _⟩)
    · exact path
    · exact absurd empty given
    · exact absurd empty given
  next some =>
    have given : textAt a ["relative_path"] ≠ "" := by simpa using some
    simp only [except_bind_eq_ok, scalarAt_eq_ok_iff] at read
    obtain ⟨answer, ⟨source, rfl⟩, read⟩ := read
    rw [if_neg given, isGenerated]
    split at read
    next generated =>
      simp only [except_bind_eq_ok, scalarAt_eq_ok_iff] at read
      obtain ⟨_, ⟨root, rfl⟩, read⟩ := read
      cases read
      rw [if_pos (beq_iff_eq.2 generated)]
      refine ⟨rfl, ?_⟩
      rintro _ (_ | _ | _)
      · exact path
      · exact source
      · exact root
    next plain =>
      cases read
      rw [if_neg (mt beq_iff_eq.1 plain)]
      refine ⟨rfl, ?_⟩
      rintro _ (_ | _ | ⟨_, generated⟩)
      · exact path
      · exact source
      · exact absurd generated plain

theorem artifact?_eq_error (failed : artifact? a = .error fault) :
    ∃ name, Asks a name ∧ HasMessageAt a [name] ∧ fault = .notScalar [name] := by
  simp only [artifact?, except_bind_eq_error, scalarAt_eq_error_iff, scalarAt_eq_ok_iff] at failed
  rcases failed with ⟨found, rfl⟩ | ⟨_, ⟨_, rfl⟩, failed⟩
  · exact ⟨_, .path, found, rfl⟩
  · split at failed
    next => cases failed
    next some =>
      have given : textAt a ["relative_path"] ≠ "" := by simpa using some
      simp only [except_bind_eq_error, scalarAt_eq_error_iff, scalarAt_eq_ok_iff] at failed
      rcases failed with ⟨found, rfl⟩ | ⟨_, ⟨_, rfl⟩, failed⟩
      · exact ⟨_, .source given, found, rfl⟩
      · split at failed
        next generated =>
          simp only [except_bind_eq_error, scalarAt_eq_error_iff] at failed
          rcases failed with ⟨found, rfl⟩ | ⟨_, _, failed⟩
          · exact ⟨_, .root given generated, found, rfl⟩
          · cases failed
        next => cases failed

theorem first?_of_messagesOf {name : String} {ms : List Message} (read : messagesOf name m = .ok ms) :
    first? name m = ms.head?.map .message := by
  rw [first?_eq_head?]
  rw [messagesOf, mapM_eq_ok_iff] at read
  generalize valuesOf name m = items at read ⊢
  cases read with
  | nil => rfl
  | @cons item fields _ _ first _ =>
    cases item with
    | scalar s => cases first
    | message fields' =>
      cases first
      rfl

theorem artifacts_eq_ok {found : List Artifact} (read : artifacts m = .ok found) :
    found = (sourcesIn m).filterMap artifactOf ∧
      (∀ s, .scalar s ∉ valuesOf "java_ide_info" m) ∧
      (∀ info, first? "java_ide_info" m = some (.message info) →
        ∀ s, .scalar s ∉ valuesOf "sources" info) ∧
      ∀ a ∈ sourcesIn m, ∀ name, Asks a name → ¬HasMessageAt a [name] := by
  obtain ⟨infos, all, read⟩ := except_bind_eq_ok.1 read
  have first := first?_of_messagesOf all
  have plain := (messagesOf_eq_ok_iff.1 all).1
  unfold sourcesIn
  cases infos with
  | nil =>
    cases read
    rw [first]
    exact ⟨rfl, plain, nofun, nofun⟩
  | cons info _ =>
    obtain ⟨sources, inside, read⟩ := except_bind_eq_ok.1 read
    obtain ⟨texts, rfl⟩ := messagesOf_eq_ok_iff.1 inside
    have first : first? "java_ide_info" m = some (.message info) := first
    rw [first]
    cases each : (messagesIn "sources" info).mapM artifact? with
    | error fault =>
      rw [each] at read
      cases read
    | ok answers =>
      rw [each] at read
      cases read
      have every := (mapM_eq_ok_iff.1 each).imp fun _ _ => artifact?_eq_ok
      have answered : answers = (messagesIn "sources" info).map artifactOf := by
        rw [← List.forall₂_eq_eq_eq, List.forall₂_map_right_iff]
        exact every.flip.imp fun _ _ said => said.1
      refine ⟨?_, plain, ?_, ?_⟩
      · change answers.filterMap id = (messagesIn "sources" info).filterMap artifactOf
        rw [answered, List.filterMap_map]
        rfl
      · intro other same
        cases same
        exact texts
      · exact ((List.forall₂_and_left _ _).1 (every.imp fun _ _ said => ⟨said.2, said.1⟩)).1

theorem artifacts_eq_error (failed : artifacts m = .error fault) : Misfit m fault := by
  rcases except_bind_eq_error.1 failed with failed | ⟨infos, all, failed⟩
  · obtain ⟨s, found, rfl⟩ := messagesOf_eq_error failed
    exact .list (by simp) found
  · have first := first?_of_messagesOf all
    cases infos with
    | nil => cases failed
    | cons info _ =>
      have first : first? "java_ide_info" m = some (.message info) := first
      rcases except_bind_eq_error.1 failed with failed | ⟨sources, inside, failed⟩
      · obtain ⟨s, found, rfl⟩ := messagesOf_eq_error failed
        exact .sources first found
      · obtain ⟨_, rfl⟩ := messagesOf_eq_ok_iff.1 inside
        cases each : (messagesIn "sources" info).mapM artifact? with
        | ok answers =>
          rw [each] at failed
          cases failed
        | error stop =>
          rw [each] at failed
          cases failed
          obtain ⟨before, a, after, split, _, stopped⟩ := mapM_eq_error_iff.1 each
          obtain ⟨name, asks, found, rfl⟩ := artifact?_eq_error stopped
          have member : a ∈ sourcesIn m := by
            rw [sourcesIn, first]
            simp only [split]
            exact List.mem_append_right before List.mem_cons_self
          exact .artifact member asks found

end Artifacts

section Lists

theorem distinctNonempty_eq (done texts : List String) : distinctNonempty done texts =
    ((texts.filter (· ≠ "")).filter (· ∉ done)).eraseDups := by
  induction texts generalizing done with
  | nil => rfl
  | cons s rest ih =>
    rw [distinctNonempty]
    by_cases empty : s = ""
    · simp [empty, ih]
    · by_cases met : s ∈ done
      · simp [empty, met, ih]
      · have kept : ¬(s.isEmpty || done.contains s) = true := by simpa [empty] using met
        have apart (xs : List String) : xs.filter (· ∉ s :: done) =
            (xs.filter (· ∉ done)).filter fun t => !t == s := by
          rw [List.filter_filter]
          apply List.filter_congr
          intro t _
          by_cases same : t = s <;> simp [same]
        rw [if_neg kept, ih, apart, List.filter_cons_of_pos (by simpa using empty),
          List.filter_cons_of_pos (by simpa using met), List.eraseDups_cons]

theorem distinctNonempty_nil (texts : List String) : distinctNonempty [] texts = distinctTexts texts := by
  rw [distinctNonempty_eq, distinctTexts, List.filter_eq_self.2]
  exact fun _ _ => rfl

def Artifact.source? : Artifact → Option String
  | .source path => some path
  | .generated _ => none

def Artifact.directory? : Artifact → Option String
  | .source _ => none
  | .generated directory => some directory

theorem filterMap_artifactOf (as : List Message) :
    (as.filterMap artifactOf).filterMap Artifact.source? =
      ((as.filter fun a => textAt a ["relative_path"] ≠ "").filter fun a => !isGenerated a).map
        (textAt · ["relative_path"]) ∧
    (as.filterMap artifactOf).filterMap Artifact.directory? =
      ((as.filter fun a => textAt a ["relative_path"] ≠ "").filter isGenerated).map directoryIn := by
  induction as with
  | nil => exact ⟨rfl, rfl⟩
  | cons a rest ih =>
    by_cases none : textAt a ["relative_path"] = ""
    · simpa [artifactOf, none] using ih
    · by_cases generated : isGenerated a = true
      · simpa [List.filterMap_cons, artifactOf, none, generated, Artifact.source?,
          Artifact.directory?] using ih
      · simpa [List.filterMap_cons, artifactOf, none, generated, Artifact.source?,
          Artifact.directory?] using ih

end Lists

end IdeInfo

namespace PackageInfo

open IdeInfo

/-- The record of which a message speaks. -/
def recordIn (m : Message) : PackageInfo where
  label := textAt m ["key", "label"]
  sources := ((artifactsIn m).filter fun a => !isGenerated a).map (textAt · ["relative_path"])
  dependencies := distinctTexts ((messagesIn "dependencies" m).map (textAt · ["target", "label"]))
  generatedSources := distinctTexts (((artifactsIn m).filter isGenerated).map directoryIn)
  kind := textAt m ["kind_string"]
  buildFile := textAt m ["build_file_artifact_location", "relative_path"]

variable {m : Message} {info : PackageInfo} {fault : IdeInfoFault}

theorem ofIdeInfo_eq_ok (read : ofIdeInfo m = .ok info) :
    info = recordIn m ∧ info.label ≠ "" ∧ ∀ fault, ¬Misfit m fault := by
  simp only [ofIdeInfo, except_bind_eq_ok, scalarAt_eq_ok_iff] at read
  obtain ⟨label, ⟨plain, rfl⟩, read⟩ := read
  split at read
  next => cases read
  next some =>
    have given : textAt m ["key", "label"] ≠ "" := by simpa using some
    simp only [except_bind_eq_ok, scalarAt_eq_ok_iff, messagesOf_eq_ok_iff] at read
    obtain ⟨_, ⟨messages, rfl⟩, labels, each, found, listed, _, ⟨kind, rfl⟩, _, ⟨file, rfl⟩, read⟩ :=
      read
    have every := (mapM_eq_ok_iff.1 each).imp fun _ _ => scalarAt_eq_ok_iff.1
    have targets : labels = (messagesIn "dependencies" m).map (textAt · ["target", "label"]) := by
      rw [← List.forall₂_eq_eq_eq, List.forall₂_map_right_iff]
      exact every.flip.imp fun _ _ said => said.2
    obtain ⟨rfl, infos, sources, asked⟩ := artifacts_eq_ok listed
    obtain ⟨verbatim, generated⟩ := filterMap_artifactOf (sourcesIn m)
    cases read
    refine ⟨?_, given, ?_⟩
    · change (⟨_, ((sourcesIn m).filterMap artifactOf).filterMap Artifact.source?, _,
        distinctNonempty [] (((sourcesIn m).filterMap artifactOf).filterMap Artifact.directory?),
        _, _⟩ : PackageInfo) = _
      rw [recordIn, artifactsIn, verbatim, generated, distinctNonempty_nil, distinctNonempty_nil,
        targets]
    · rintro _ (none | empty | ⟨read, stands⟩ | ⟨member, stands⟩ | ⟨member, asks, stands⟩ |
        ⟨read, stands⟩ | ⟨first, stands⟩)
      · exact given (by rw [textAt, none])
      · exact given (by rw [textAt, empty])
      · rcases List.mem_cons.1 read with rfl | read
        · exact plain stands
        · rcases List.mem_cons.1 read with rfl | read
          · exact kind stands
          · rw [List.mem_singleton.1 read] at stands
            exact file stands
      · exact ((List.forall₂_and_left _ _).1 (every.imp fun _ _ said => ⟨said.1, said.2⟩)).1 _ member
          stands
      · exact asked _ member _ asks stands
      · rcases List.mem_cons.1 read with rfl | read
        · exact messages _ stands
        · rw [List.mem_singleton.1 read] at stands
          exact infos _ stands
      · exact sources _ first _ stands

theorem ofIdeInfo_eq_error (failed : ofIdeInfo m = .error fault) : Misfit m fault := by
  simp only [ofIdeInfo, except_bind_eq_error, scalarAt_eq_error_iff, scalarAt_eq_ok_iff] at failed
  rcases failed with ⟨stands, rfl⟩ | ⟨_, ⟨plain, rfl⟩, failed⟩
  · exact .text (by simp) stands
  · split at failed
    next none =>
      have empty : textAt m ["key", "label"] = "" := by simpa using none
      cases failed
      unfold textAt at empty
      split at empty
      next found => exact .emptyLabel (empty ▸ found)
      next absent =>
        refine .noLabel (Option.eq_none_iff_forall_ne_some.2 fun item found => ?_)
        cases item with
        | scalar s => exact absent s found
        | message fields => exact plain ⟨fields, found⟩
    next =>
      simp only [except_bind_eq_error, scalarAt_eq_error_iff] at failed
      rcases failed with failed | ⟨_, targets, failed⟩
      · obtain ⟨s, found, rfl⟩ := messagesOf_eq_error failed
        exact .list (by simp) found
      · obtain ⟨_, rfl⟩ := messagesOf_eq_ok_iff.1 targets
        rcases failed with
          failed | ⟨_, _, failed | ⟨_, _, ⟨stands, rfl⟩ | ⟨_, _, ⟨stands, rfl⟩ | failed⟩⟩⟩
        · obtain ⟨before, d, after, split, _, stopped⟩ := mapM_eq_error_iff.1 failed
          obtain ⟨stands, rfl⟩ := scalarAt_eq_error_iff.1 stopped
          have member : d ∈ messagesIn "dependencies" m := by
            rw [split]
            exact List.mem_append_right before List.mem_cons_self
          exact .dependency member stands
        · exact artifacts_eq_error failed
        · exact .text (by simp) stands
        · exact .text (by simp) stands
        · obtain ⟨_, _, ended⟩ := failed
          cases ended

theorem exists_eq_error (misfit : Misfit m fault) : ∃ first, ofIdeInfo m = .error first := by
  cases read : ofIdeInfo m with
  | error first => exact ⟨first, rfl⟩
  | ok info => exact absurd misfit ((ofIdeInfo_eq_ok read).2.2 fault)

end PackageInfo

end WorkspaceImport
