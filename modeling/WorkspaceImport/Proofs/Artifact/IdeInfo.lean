import WorkspaceImport.Artifact.IdeInfo
import WorkspaceImport.Proofs.Outcome
import WorkspaceImport.Proofs.TextFormat.Printing
/-!
Writing records of the modern artifact format. Every dependency is a message of its own, and so is
every source; the directory of a generated source is the root of a file in it. A record without empty
texts and without repetitions is read back as it was, whatever characters its texts are made of.
-/
namespace WorkspaceImport

open TextFormat (Draft Word word)

namespace IdeInfo

section Fields

variable {α β : Type}

theorem mapM_map_eq_ok {γ ε : Type} {f : β → Except ε γ} {shape : α → β} {g : α → γ} {xs : List α}
    (each : ∀ x ∈ xs, f (shape x) = .ok (g x)) : (xs.map shape).mapM f = .ok (xs.map g) := by
  rw [mapM_eq_ok_iff, List.forall₂_map_left_iff, List.forall₂_map_right_iff, List.forall₂_same]
  exact each

theorem valuesOf_rowItems (name : String) (rows : List (Word × Draft)) :
    valuesOf name (Draft.rowItems rows) =
      (rows.filter fun row => String.ofList row.1.1 = name).map fun row => row.2.item := by
  induction rows with
  | nil => rfl
  | cons row rest ih =>
    by_cases same : String.ofList row.1.1 = name
    · simpa [valuesOf, Draft.rowItems, same] using ih
    · simpa [valuesOf, Draft.rowItems, same] using ih

theorem messagesOf_rowItems {name : String} {rows : List (Word × Draft)}
    {blocks : List (List (Word × Draft))}
    (drafts : (rows.filter fun row => String.ofList row.1.1 = name).map (·.2) =
      blocks.map .block) :
    messagesOf name (Draft.rowItems rows) = .ok (blocks.map Draft.rowItems) := by
  have values : valuesOf name (Draft.rowItems rows) =
      blocks.map fun block => .message (Draft.rowItems block) := by
    calc valuesOf name (Draft.rowItems rows)
        = ((rows.filter fun row => String.ofList row.1.1 = name).map (·.2)).map Draft.item := by
          rw [valuesOf_rowItems, List.map_map, Function.comp_def]
      _ = (blocks.map Draft.block).map Draft.item := by rw [drafts]
      _ = blocks.map fun block => .message (Draft.rowItems block) := by
          simp [Function.comp_def, Draft.item]
  rw [messagesOf, values]
  exact mapM_map_eq_ok fun _ _ => rfl

end Fields

theorem distinctNonempty_eq_self {done texts : List String} (nonempty : ∀ s ∈ texts, s ≠ "")
    (distinct : texts.Nodup) (fresh : ∀ s ∈ texts, s ∉ done) :
    distinctNonempty done texts = texts := by
  induction texts generalizing done with
  | nil => rfl
  | cons s rest ih =>
    obtain ⟨apart, later⟩ := List.nodup_cons.1 distinct
    have kept : ¬(s.isEmpty || done.contains s) = true := by
      simpa using And.intro (nonempty s List.mem_cons_self) (fresh s List.mem_cons_self)
    rw [distinctNonempty, if_neg kept]
    congr 1
    refine ih (fun t member => nonempty t (List.mem_cons_of_mem s member)) later ?_
    intro t member inside
    rcases List.mem_cons.1 inside with rfl | before
    · exact apart member
    · exact fresh t (List.mem_cons_of_mem s member) before

theorem directoryOf_joinPath {root file : List Char} (nonempty : root ≠ [])
    (ends : root.getLast? ≠ some '/') (plain : '/' ∉ file) :
    directoryOf (joinPath root file) = root := by
  have relative : file.head? ≠ some '/' := fun first => plain (List.mem_of_head? first)
  obtain ⟨front, last, rfl⟩ := List.eq_nil_or_concat' root |>.resolve_left nonempty
  have visible : last ≠ '/' := by simpa using ends
  have path : joinPath (front ++ [last]) file = front ++ [last] ++ '/' :: file := by
    simp [joinPath, relative, visible]
  have reversed : (file.reverse ++ '/' :: (front ++ [last]).reverse).dropWhile (· ≠ '/') =
      '/' :: (front ++ [last]).reverse := by
    rw [List.dropWhile_append_of_pos]
    · simp
    · intro c member
      simpa using fun same : c = '/' => plain (same ▸ List.mem_reverse.1 member)
  have head : ((front ++ [last] ++ '/' :: file).reverse.dropWhile (· ≠ '/')).reverse =
      front ++ [last] ++ ['/'] := by
    rw [List.reverse_append, List.reverse_cons, List.append_assoc, List.singleton_append, reversed]
    simp
  rw [path, directoryOf, head]
  simp [visible]

end IdeInfo

namespace PackageInfo

open IdeInfo

/-- Records that can be told from their messages: no text is empty where texts are listed, and none
is repeated where repetitions do not count. A directory is written without a slash at its end. -/
structure Writable (info : PackageInfo) : Prop where
  label : info.label ≠ ""
  sources : ∀ s ∈ info.sources, s ≠ ""
  dependencies : info.dependencies.Nodup ∧ ∀ d ∈ info.dependencies, d ≠ ""
  generated : info.generatedSources.Nodup ∧
    ∀ g ∈ info.generatedSources, g ≠ "" ∧ g.toList.getLast? ≠ some '/'

def dependencyRows (label : String) : List (Word × Draft) :=
  [(word "target", .block [(word "label", .text label)])]

def sourceRows (path : String) : List (Word × Draft) :=
  [(word "relative_path", .text path), (word "is_source", .bare (word "true"))]

def generatedRows (directory : String) : List (Word × Draft) :=
  [(word "relative_path", .text "x"), (word "is_source", .bare (word "false")),
    (word "root_execution_path_fragment", .text directory)]

/-- One message for each artifact: the sources, then the directories of generated sources. -/
def artifactRows (info : PackageInfo) : List (List (Word × Draft)) :=
  info.sources.map sourceRows ++ info.generatedSources.map generatedRows

def rows (info : PackageInfo) : List (Word × Draft) :=
  [(word "key", .block [(word "label", .text info.label)]),
    (word "kind_string", .text info.kind),
    (word "build_file_artifact_location", .block [(word "relative_path", .text info.buildFile)])] ++
  info.dependencies.map (fun label => (word "dependencies", .block (dependencyRows label))) ++
  [(word "java_ide_info", .block
    (info.artifactRows.map fun artifact => (word "sources", .block artifact)))]

def render (info : PackageInfo) : String :=
  Draft.print info.rows

example : (render ⟨"//a:b", ["x.java"], [], ["gen"], "", "BUILD"⟩).toList =
    ["key \x7b", "label: \"//a:b\"", "\x7d", "kind_string: \"\"",
      "build_file_artifact_location \x7b", "relative_path: \"BUILD\"", "\x7d",
      "java_ide_info \x7b", "sources \x7b", "relative_path: \"x.java\"", "is_source: true",
      "\x7d", "sources \x7b", "relative_path: \"x\"", "is_source: false",
      "root_execution_path_fragment: \"gen\"", "\x7d", "\x7d"].flatMap fun line =>
        line.toList ++ ['\n'] := by
  rw [render, Draft.print, String.toList_ofList]
  decide +kernel

variable {info : PackageInfo}

theorem scalarAt_rows (info : PackageInfo) :
    scalarAt (Draft.rowItems info.rows) ["key", "label"] = .ok info.label ∧
      scalarAt (Draft.rowItems info.rows) ["kind_string"] = .ok info.kind ∧
      scalarAt (Draft.rowItems info.rows) ["build_file_artifact_location", "relative_path"] =
        .ok info.buildFile := by
  simp [rows, Draft.rowItems, Draft.item, scalarAt, follow?, first?]

theorem scalarAt_dependencyRows (label : String) :
    scalarAt (Draft.rowItems (dependencyRows label)) ["target", "label"] = .ok label := by
  simp [dependencyRows, Draft.rowItems, Draft.item, scalarAt, follow?, first?]

theorem artifact?_sourceRows {path : String} (nonempty : path ≠ "") :
    artifact? (Draft.rowItems (sourceRows path)) = .ok (some (.source path)) := by
  simp [sourceRows, Draft.rowItems, Draft.item, artifact?, scalarAt, follow?, first?, bind,
    Except.bind, pure, Except.pure, nonempty]

theorem artifact?_generatedRows {directory : String} (nonempty : directory ≠ "")
    (ends : directory.toList.getLast? ≠ some '/') :
    artifact? (Draft.rowItems (generatedRows directory)) = .ok (some (.generated directory)) := by
  have same : directoryOf (joinPath directory.toList ['x']) = directory.toList :=
    directoryOf_joinPath (by simpa using nonempty) ends (by decide)
  simp [generatedRows, Draft.rowItems, Draft.item, artifact?, scalarAt, follow?, first?, bind,
    Except.bind, pure, Except.pure, same]

theorem messagesOf_dependencies (info : PackageInfo) :
    messagesOf "dependencies" (Draft.rowItems info.rows) =
      .ok ((info.dependencies.map dependencyRows).map Draft.rowItems) :=
  messagesOf_rowItems (by simp [rows, List.filter_map, Function.comp_def])

theorem messagesOf_java (info : PackageInfo) :
    messagesOf "java_ide_info" (Draft.rowItems info.rows) =
      .ok ([info.artifactRows.map fun artifact => (word "sources", .block artifact)].map
        Draft.rowItems) :=
  messagesOf_rowItems (by simp [rows, List.filter_map, Function.comp_def])

theorem artifacts_rows (writable : info.Writable) :
    artifacts (Draft.rowItems info.rows) =
      .ok (info.sources.map .source ++ info.generatedSources.map .generated) := by
  have sources : messagesOf "sources"
      (Draft.rowItems (info.artifactRows.map fun artifact => (word "sources", .block artifact))) =
        .ok (info.artifactRows.map Draft.rowItems) :=
    messagesOf_rowItems (by simp [List.filter_map, Function.comp_def])
  have written : ((info.sources.map sourceRows).map Draft.rowItems).mapM artifact? =
      .ok (info.sources.map fun path => some (.source path)) := by
    rw [List.map_map]
    exact mapM_map_eq_ok fun path member => artifact?_sourceRows (writable.sources path member)
  have generated : ((info.generatedSources.map generatedRows).map Draft.rowItems).mapM artifact? =
      .ok (info.generatedSources.map fun directory => some (.generated directory)) := by
    rw [List.map_map]
    refine mapM_map_eq_ok fun directory member => ?_
    obtain ⟨nonempty, ends⟩ := writable.generated.2 directory member
    exact artifact?_generatedRows nonempty ends
  have found : (info.artifactRows.map Draft.rowItems).mapM artifact? =
      .ok (info.sources.map (fun path => some (.source path)) ++
        info.generatedSources.map fun directory => some (.generated directory)) := by
    rw [artifactRows, List.map_append, List.mapM_append, written, generated]
    rfl
  simp [artifacts, messagesOf_java, sources, found, bind, Except.bind, Except.map,
    List.filterMap_map]

theorem nesting_rows (info : PackageInfo) : TextFormat.nesting (Draft.rowItems info.rows) ≤ 2 := by
  have artifacts : ∀ artifact ∈ info.artifactRows,
      TextFormat.nesting (Draft.rowItems artifact) = 0 := by
    intro artifact member
    rcases List.mem_append.1 member with source | generated
    · obtain ⟨path, _, rfl⟩ := List.mem_map.1 source
      rfl
    · obtain ⟨directory, _, rfl⟩ := List.mem_map.1 generated
      rfl
  have java : TextFormat.nesting (Draft.rowItems
      (info.artifactRows.map fun artifact => (word "sources", .block artifact))) ≤ 1 := by
    rw [Draft.nesting_rowItems_le_iff, List.forall_mem_map]
    exact fun artifact member => Nat.succ_le_succ (Nat.le_of_eq (artifacts artifact member))
  rw [Draft.nesting_rowItems_le_iff, rows, List.forall_mem_append, List.forall_mem_append,
    List.forall_mem_map, List.forall_mem_singleton]
  refine ⟨⟨?_, fun _ _ => Nat.le_refl 2⟩, Nat.succ_le_succ java⟩
  simp [Draft.item, Draft.rowItems, TextFormat.Item.nesting, TextFormat.nesting]

/-- A record is read back from its text. -/
theorem ofIdeInfo_render (writable : info.Writable) :
    ∃ m, TextFormat.parse info.render = .ok m ∧ ofIdeInfo m = .ok info := by
  refine ⟨Draft.rowItems info.rows, Draft.parse_print ?_, ?_⟩
  · exact Nat.le_trans info.nesting_rows (by decide)
  obtain ⟨label, kind, buildFile⟩ := scalarAt_rows info
  have targets : ((info.dependencies.map dependencyRows).map Draft.rowItems).mapM
      (fun d => scalarAt d ["target", "label"]) = .ok (info.dependencies.map id) := by
    rw [List.map_map]
    exact mapM_map_eq_ok fun d _ => scalarAt_dependencyRows d
  obtain ⟨once, nonempty⟩ := writable.dependencies
  have dependencies : distinctNonempty [] info.dependencies = info.dependencies :=
    distinctNonempty_eq_self nonempty once fun _ _ => List.not_mem_nil
  have directories : distinctNonempty [] info.generatedSources = info.generatedSources :=
    distinctNonempty_eq_self (fun g member => (writable.generated.2 g member).1)
      writable.generated.1 fun _ _ => List.not_mem_nil
  simp only [ofIdeInfo, label, messagesOf_dependencies, targets, artifacts_rows writable, kind,
    buildFile, List.map_id, dependencies, bind, Except.bind]
  simp [writable.label, directories, pure, Except.pure, List.filterMap_map]

/-- A record whose texts look like parts of the format. -/
def sample : PackageInfo where
  label := "//a:\"b\\"
  sources := ["a/#b.java", "a/\x7bc\x7d\n.java", "a/#b.java"]
  dependencies := ["//c: < >", "//\u65e5\u672c;,"]
  generatedSources := ["out/[gen]", "/out//\t'x'"]
  kind := ""
  buildFile := "# key \x7b"

theorem ofIdeInfo_render_sample :
    ∃ m, TextFormat.parse sample.render = .ok m ∧ ofIdeInfo m = .ok sample :=
  ofIdeInfo_render ⟨by decide, by decide, by decide, by decide⟩

end PackageInfo

end WorkspaceImport
