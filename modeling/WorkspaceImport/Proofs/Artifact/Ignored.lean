import WorkspaceImport.Proofs.Artifact.Mapping
/-!
What does not count in a message of the modern artifact format. Fields that the mapping to records
does not name may be left out wherever they stand, and so may all messages about Java sources after
the first one; neither changes the record, nor what keeps a message from being one.
-/
namespace WorkspaceImport

open TextFormat (Item Message)

namespace IdeInfo

/-- The fields of a message that are named, each with what is kept of its values. -/
def keptOf (named : List (String × (Item → Item))) (m : Message) : Message :=
  m.filterMap fun field => (valueAt? field.1 named).map fun keep => (field.1, keep field.2)

def keeping (named : List (String × (Item → Item))) : Item → Item
  | .scalar s => .scalar s
  | .message m => .message (keptOf named m)

def namedOfArtifact : List (String × (Item → Item)) :=
  [("relative_path", keeping []), ("is_source", keeping []),
    ("root_execution_path_fragment", keeping [])]

/-- What is named in a message about a target. -/
def namedOfTarget : List (String × (Item → Item)) :=
  [("key", keeping [("label", keeping [])]),
    ("kind_string", keeping []),
    ("build_file_artifact_location", keeping [("relative_path", keeping [])]),
    ("dependencies", keeping [("target", keeping [("label", keeping [])])]),
    ("java_ide_info", keeping [("sources", keeping namedOfArtifact)])]

inductive Follows : (Item → Item) → List String → Prop where
  | ends (named : List (String × (Item → Item))) : Follows (keeping named) []
  | within {named : List (String × (Item → Item))} {name : String} {keep : Item → Item}
      {path : List String} (found : valueAt? name named = some keep) (rest : Follows keep path) :
      Follows (keeping named) (name :: path)

def asMessage (name : String) : Item → Except IdeInfoFault Message
  | .message fields => .ok fields
  | .scalar _ => .error (.notMessage name)

theorem messagesOf_eq (name : String) (m : Message) :
    messagesOf name m = (valuesOf name m).mapM (asMessage name) := by
  unfold messagesOf
  congr 1

def artifactsOf (info? : Option Message) : Except IdeInfoFault (List Artifact) :=
  match info? with
  | none => pure []
  | some info => do
    let sources ← messagesOf "sources" info
    (sources.mapM artifact?).map fun found => found.filterMap id

theorem artifacts_eq (m : Message) :
    artifacts m = (messagesOf "java_ide_info" m).map List.head? >>= artifactsOf := by
  unfold artifacts
  cases messagesOf "java_ide_info" m <;> rfl

section Kept

variable {named : List (String × (Item → Item))} {name : String} {keep : Item → Item}
  {path : List String}

theorem valuesOf_keptOf (found : valueAt? name named = some keep) (m : Message) :
    valuesOf name (keptOf named m) = (valuesOf name m).map keep := by
  induction m with
  | nil => rfl
  | cons field rest ih =>
    obtain ⟨n, item⟩ := field
    unfold valuesOf keptOf at ih ⊢
    by_cases same : n = name
    · subst same
      simpa [found] using ih
    · cases kept : valueAt? n named with
      | none => simpa [kept, same, List.filterMap_cons] using ih
      | some _ => simpa [kept, same, List.filterMap_cons] using ih

theorem follow?_keep (follows : Follows keep path) (item : Item) :
    ∃ inner, follow? (keep item) path = (follow? item path).map (keeping inner) := by
  induction follows generalizing item with
  | ends named =>
    refine ⟨named, ?_⟩
    cases item <;> rfl
  | @within named name keep path found _ ih =>
    cases item with
    | scalar s => exact ⟨[], rfl⟩
    | message m =>
      have first : first? name (keptOf named m) = (first? name m).map keep := by
        rw [first?_eq_head?, first?_eq_head?, valuesOf_keptOf found, List.head?_map]
      simp only [keeping, follow?, first]
      cases first? name m with
      | none => exact ⟨[], rfl⟩
      | some value => exact ih value

theorem scalarAt_keptOf (follows : Follows (keeping named) path) (m : Message) :
    scalarAt (keptOf named m) path = scalarAt m path := by
  obtain ⟨inner, same⟩ := follow?_keep follows (.message m)
  rw [keeping] at same
  rw [scalarAt, scalarAt, same]
  cases follow? (.message m) path with
  | none => rfl
  | some item => cases item <;> rfl

theorem messagesOf_keptOf (inner : List (String × (Item → Item)))
    (found : valueAt? name named = some (keeping inner)) (m : Message) :
    messagesOf name (keptOf named m) = (messagesOf name m).map (List.map (keptOf inner)) := by
  rw [messagesOf_eq, messagesOf_eq, valuesOf_keptOf found]
  induction valuesOf name m with
  | nil => rfl
  | cons item rest ih =>
    rw [List.map_cons, List.mapM_cons, List.mapM_cons, ih]
    cases item with
    | scalar s => rfl
    | message fields => cases rest.mapM (asMessage name) <;> rfl

theorem mapM_keptOf {ε α : Type} (read : Message → Except ε α)
    (same : ∀ m, read (keptOf named m) = read m) (ms : List Message) :
    (ms.map (keptOf named)).mapM read = ms.mapM read := by
  induction ms with
  | nil => rfl
  | cons m rest ih => rw [List.map_cons, List.mapM_cons, List.mapM_cons, same, ih]

end Kept

theorem artifact?_keptOf (a : Message) : artifact? (keptOf namedOfArtifact a) = artifact? a := by
  have path : scalarAt (keptOf namedOfArtifact a) ["relative_path"] = _ :=
    scalarAt_keptOf (.within rfl (.ends [])) a
  have source : scalarAt (keptOf namedOfArtifact a) ["is_source"] = _ :=
    scalarAt_keptOf (.within rfl (.ends [])) a
  have root : scalarAt (keptOf namedOfArtifact a) ["root_execution_path_fragment"] = _ :=
    scalarAt_keptOf (.within rfl (.ends [])) a
  simp only [artifact?, path, source, root]

theorem artifactsOf_keptOf (info? : Option Message) :
    artifactsOf (info?.map (keptOf [("sources", keeping namedOfArtifact)])) = artifactsOf info? := by
  cases info? with
  | none => rfl
  | some info =>
    have sources : messagesOf "sources" (keptOf [("sources", keeping namedOfArtifact)] info) = _ :=
      messagesOf_keptOf namedOfArtifact rfl info
    simp only [artifactsOf, Option.map_some, sources]
    cases messagesOf "sources" info with
    | error fault => rfl
    | ok found => exact congrArg (Except.map _) (mapM_keptOf artifact? artifact?_keptOf found)

theorem artifacts_keptOf (m : Message) : artifacts (keptOf namedOfTarget m) = artifacts m := by
  have infos : messagesOf "java_ide_info" (keptOf namedOfTarget m) = _ :=
    messagesOf_keptOf [("sources", keeping namedOfArtifact)] rfl m
  rw [artifacts_eq, artifacts_eq, infos]
  cases messagesOf "java_ide_info" m with
  | error fault => rfl
  | ok found =>
    change artifactsOf (found.map _).head? = artifactsOf found.head?
    rw [List.head?_map, artifactsOf_keptOf]

section Further

variable {name other : String} {item : Item} {before after : Message}

theorem valuesOf_insert_of_ne (differ : other ≠ name) :
    valuesOf name (before ++ (other, item) :: after) = valuesOf name (before ++ after) := by
  simp [valuesOf, differ]

theorem scalarAt_insert_of_ne (differ : other ≠ name) (path : List String) :
    scalarAt (before ++ (other, item) :: after) (name :: path) =
      scalarAt (before ++ after) (name :: path) := by
  simp only [scalarAt, follow?, first?_eq_head?, valuesOf_insert_of_ne differ]

theorem messagesOf_insert_of_ne (differ : other ≠ name) :
    messagesOf name (before ++ (other, item) :: after) = messagesOf name (before ++ after) := by
  rw [messagesOf, messagesOf, valuesOf_insert_of_ne differ]

theorem head?_messagesOf_insert (fields : Message) (met : name ∈ before.map (·.1)) :
    (messagesOf name (before ++ (name, .message fields) :: after)).map List.head? =
      (messagesOf name (before ++ after)).map List.head? := by
  have values : valuesOf name before ≠ [] := by
    obtain ⟨⟨n, item⟩, member, same⟩ := List.mem_map.1 met
    exact List.ne_nil_of_mem (List.mem_filterMap.2 ⟨_, member, if_pos same⟩)
  have more : valuesOf name (before ++ (name, .message fields) :: after) =
      valuesOf name before ++ (.message fields :: valuesOf name after) := by
    simp [valuesOf]
  have fewer : valuesOf name (before ++ after) = valuesOf name before ++ valuesOf name after := by
    simp [valuesOf]
  rw [messagesOf_eq, messagesOf_eq, more, fewer, List.mapM_append, List.mapM_append, List.mapM_cons]
  cases all : (valuesOf name before).mapM (asMessage name) with
  | error fault => rfl
  | ok first =>
    have some : first ≠ [] := by
      rintro rfl
      exact values (List.forall₂_nil_right_iff.1 (mapM_eq_ok_iff.1 all))
    obtain ⟨head, rest, rfl⟩ := List.exists_cons_of_ne_nil some
    cases (valuesOf name after).mapM (asMessage name) <;> rfl

theorem artifacts_insert (fields : Message) (met : "java_ide_info" ∈ before.map (·.1)) :
    artifacts (before ++ ("java_ide_info", .message fields) :: after) =
      artifacts (before ++ after) := by
  rw [artifacts_eq, artifacts_eq, head?_messagesOf_insert fields met]

end Further

end IdeInfo

namespace PackageInfo

open IdeInfo

theorem ofIdeInfo_keptOf (m : Message) : ofIdeInfo (keptOf namedOfTarget m) = ofIdeInfo m := by
  have label : scalarAt (keptOf namedOfTarget m) ["key", "label"] = _ :=
    scalarAt_keptOf (.within rfl (.within rfl (.ends []))) m
  have kind : scalarAt (keptOf namedOfTarget m) ["kind_string"] = _ :=
    scalarAt_keptOf (.within rfl (.ends [])) m
  have file : scalarAt (keptOf namedOfTarget m)
      ["build_file_artifact_location", "relative_path"] = _ :=
    scalarAt_keptOf (.within rfl (.within rfl (.ends []))) m
  have targets : messagesOf "dependencies" (keptOf namedOfTarget m) = _ :=
    messagesOf_keptOf [("target", keeping [("label", keeping [])])] rfl m
  have each : ∀ d, scalarAt (keptOf [("target", keeping [("label", keeping [])])] d)
      ["target", "label"] = scalarAt d ["target", "label"] :=
    scalarAt_keptOf (.within rfl (.within rfl (.ends [])))
  simp only [ofIdeInfo, label, kind, file, targets, artifacts_keptOf]
  cases messagesOf "dependencies" m with
  | error fault => rfl
  | ok found =>
    have labels := mapM_keptOf (scalarAt · ["target", "label"]) each found
    simp only [Except.map, bind, Except.bind] at labels ⊢
    simp only [labels]

theorem ofIdeInfo_insert (before after fields : Message)
    (met : "java_ide_info" ∈ before.map (·.1)) :
    ofIdeInfo (before ++ ("java_ide_info", .message fields) :: after) =
      ofIdeInfo (before ++ after) := by
  have texts {name : String} (differ : "java_ide_info" ≠ name) (path : List String) :
      scalarAt (before ++ ("java_ide_info", .message fields) :: after) (name :: path) = _ :=
    scalarAt_insert_of_ne differ path
  have targets : messagesOf "dependencies"
      (before ++ ("java_ide_info", .message fields) :: after) = _ :=
    messagesOf_insert_of_ne (by decide)
  simp only [ofIdeInfo, artifacts_insert fields met, targets, texts (by decide : _ ≠ "key"),
    texts (by decide : _ ≠ "kind_string"), texts (by decide : _ ≠ "build_file_artifact_location")]

/-- What a message of the modern format says of its target. Its record has a label, the first one of
its key, and a dependency for each message about one that names it. Every artifact with a path that
the first message about Java sources lists is a source of it or gives it a directory of generated
sources. Nothing else that the message holds has a part in it. What keeps a message from having a
record is that it has no label, a message where one of these texts is read, or a text among the
messages that are read; the failure says which of these it is. -/
theorem ofIdeInfo_mapping (m : Message) :
    (∀ info, ofIdeInfo m = .ok info → info.label ≠ "" ∧ info = recordIn m) ∧
    (∀ before fields after, "java_ide_info" ∈ before.map (·.1) →
      m = before ++ ("java_ide_info", .message fields) :: after →
      ofIdeInfo m = ofIdeInfo (before ++ after)) ∧
    ofIdeInfo m = ofIdeInfo (keptOf namedOfTarget m) ∧
    ∀ fault, (ofIdeInfo m = .error fault → Misfit m fault) ∧
      (Misfit m fault → ∃ first, ofIdeInfo m = .error first) := by
  refine ⟨?_, ?_, (ofIdeInfo_keptOf m).symm, fun fault => ⟨ofIdeInfo_eq_error, exists_eq_error⟩⟩
  · intro info read
    obtain ⟨same, given, _⟩ := ofIdeInfo_eq_ok read
    exact ⟨given, same⟩
  · rintro before fields after met rfl
    exact ofIdeInfo_insert before after fields met

def sampleTarget : Message :=
  [("kind_string", .scalar "java_library"),
    ("key", .message [("label", .scalar "//a:a"), ("label", .message [])]),
    ("dependencies", .message [("target", .message [("label", .scalar "//b:b")])]),
    ("dependencies", .message []),
    ("dependencies", .message [("target", .message [("label", .scalar "//b:b")])]),
    ("java_ide_info", .message [
      ("sources", .message [("relative_path", .scalar "a/A.java")]),
      ("sources", .message [("relative_path", .scalar "gen/G.java"), ("is_source", .scalar "false"),
        ("root_execution_path_fragment", .scalar "out")]),
      ("sources", .message [("is_source", .message [])])])]

/-- Two fields are added that count for nothing, and then a text among the dependencies. -/
theorem ofIdeInfo_mapping_sample :
    let further : Message := [("sources", .message [("relative_path", .scalar "b/B.java")])]
    let m := sampleTarget ++ ("java_ide_info", .message further) :: [("tags", .scalar "x")]
    (∃ info, ofIdeInfo m = .ok info ∧ info = recordIn m ∧ info.label = "//a:a" ∧
      info.dependencies = ["//b:b"] ∧ info.sources = ["a/A.java"] ∧
      info.generatedSources = ["out/gen"]) ∧
    ofIdeInfo m = ofIdeInfo (sampleTarget ++ [("tags", .scalar "x")]) ∧
    ∃ fault, ofIdeInfo (("dependencies", .scalar "//b:b") :: m) = .error fault := by
  intro further m
  refine ⟨?_, (ofIdeInfo_mapping m).2.1 _ _ _ (by decide) rfl, ?_⟩
  · have read : ofIdeInfo m = .ok ⟨"//a:a", ["a/A.java"], ["//b:b"], ["out/gen"], "java_library", ""⟩ :=
      by decide +kernel
    exact ⟨_, read, ((ofIdeInfo_mapping m).1 _ read).2, rfl, rfl, rfl, rfl⟩
  · have misfit : Misfit (("dependencies", .scalar "//b:b") :: m) (.notMessage "dependencies") :=
      .list (by simp) List.mem_cons_self
    exact ((ofIdeInfo_mapping _).2.2.2 _).2 misfit

end PackageInfo

end WorkspaceImport
