import WorkspaceImport.Proofs.Artifact.Legacy
import WorkspaceImport.Proofs.Cache.Listing
import WorkspaceImport.Proofs.Cache.Passive
import WorkspaceImport.Proofs.Cache.Usage
import WorkspaceImport.Proofs.Files.Tree
import WorkspaceImport.Proofs.Json.Nesting
/-!
Calls for one target with an empty cache. The tool is run for the target, and the call ends as the run
does. With the legacy variant that is as the reading of its artifacts ends.
-/
namespace WorkspaceImport

variable {σ : Type} {tool : Tool} {monitor : Monitor σ} {origin : Origin}

/-- A step that ends as a run of the tool does; a run that fails leaves no trace in the report. -/
inductive Call.EndsAs (c : Call σ) :
    Except Failure Records → EStateM.Result Failure (Call σ) Unit → Prop
  | answered (records : Records) (d : Call σ) : c.EndsAs (.ok records) (.ok () d)
  | refused (f : Failure) {d : Call σ} (same : d.report = c.report) :
      c.EndsAs (.error f) (.error f d)

theorem Call.EndsAs.of_report {b c : Call σ} {outcome : Except Failure Records}
    {r : EStateM.Result Failure (Call σ) Unit} (ends : b.EndsAs outcome r)
    (same : b.report = c.report) : c.EndsAs outcome r := by
  cases ends with
  | answered records d => exact .answered records d
  | refused f untouched => exact .refused f (untouched.trans same)

namespace Resolve

variable {c : Call σ} {target : String} {label : Label}

theorem literal_endsAs (passive : monitor.Passive)
    (uncached : c.world.cache.current.get? target = none) :
    c.EndsAs (tool c.world.invocations target).outcome (literal tool monitor origin target c) := by
  cases said : (tool c.world.invocations target).outcome with
  | error f =>
    rw [literal_refused tool monitor origin uncached said]
    exact .refused f rfl
  | ok records =>
    obtain ⟨w, returned, _⟩ :=
      passive.reportWork (c.answerLiteral tool origin target records.values)
    rw [literal_answered tool monitor origin uncached said, returned]
    exact .answered records _

theorem wildcard_endsAs (passive : monitor.Passive) (depth : Nat)
    (read : Label.parse target = .ok label)
    (unknown : c.world.cache.wildcards.get? target = none) :
    c.EndsAs (tool c.world.invocations target).outcome
      (wildcard tool monitor origin (depth + 1) [] target c) := by
  have first : ([] : List String).contains target = false := rfl
  cases said : (tool c.world.invocations target).outcome with
  | error f =>
    rw [wildcard_refused tool monitor origin depth first unknown said]
    exact .refused f rfl
  | ok records =>
    obtain ⟨w, returned, _⟩ :=
      passive.reportWork (c.answerWildcard tool origin target label.package records.values)
    rw [wildcard_answered tool monitor origin depth first read unknown said, returned]
    exact .answered records _

theorem request_endsAs (patient : monitor.Patient) (read : Label.parse target = .ok label)
    (fresh : c.world.cache = .empty) :
    c.EndsAs (tool c.world.invocations label.canonical.text).outcome
      (request tool monitor origin target c) := by
  obtain ⟨canceled, w, asked, alike⟩ := patient.isCanceled c.world
  obtain rfl := patient.goesOn _ _ _ asked
  have empty : w.cache = .empty := alike.cache.trans fresh
  have ends : Call.EndsAs ⟨c.report, w⟩ (tool w.invocations label.canonical.text).outcome
      (request tool monitor origin target c) := by
    simp only [request_eq, asked, read]
    split
    next =>
      apply wildcard_endsAs patient.toPassive _ (Label.parse_canonical read)
      rw [empty]
      rfl
    next =>
      apply literal_endsAs patient.toPassive
      rw [empty]
      rfl
  rw [← alike.invocations]
  exact ends.of_report rfl

end Resolve

namespace Cache

/-- With an empty cache a call for one target ends as the run of the tool does. There is nothing that a
failure could take with it. -/
theorem resolveWithReport_fresh {w : World σ} {target : String} {label : Label}
    (patient : monitor.Patient) (read : Label.parse target = .ok label) (fresh : w.cache = .empty) :
    match (tool w.invocations label.canonical.text).outcome with
    | .ok _ => ∃ report v, resolveWithReport tool monitor origin [target] w = .ok report v
    | .error f => ∃ v, resolveWithReport tool monitor origin [target] w =
        .error (Resolve.withFound .empty f) v := by
  obtain ⟨u, started, alike⟩ := patient.subTask resolveTask w
  have ends : Call.EndsAs ⟨.empty, u⟩ (tool u.invocations label.canonical.text).outcome
      (Resolve.request tool monitor origin target ⟨.empty, u⟩) :=
    Resolve.request_endsAs patient read (alike.cache.trans fresh)
  have alone : Resolve.requests tool monitor origin [target] ⟨.empty, u⟩ =
      Resolve.request tool monitor origin target ⟨.empty, u⟩ := by
    rw [Resolve.requests, Step.forM_cons_apply]
    cases Resolve.request tool monitor origin target ⟨.empty, u⟩ <;> rfl
  rw [← alone, alike.invocations] at ends
  generalize ran : Resolve.requests tool monitor origin [target] ⟨.empty, u⟩ = result at ends
  generalize (tool w.invocations label.canonical.text).outcome = outcome at ends
  cases ends with
  | answered _ d =>
    obtain ⟨v, returned, _⟩ := patient.toPassive.resolveWithReport started ran
    exact ⟨d.report, v, returned⟩
  | @refused f d same =>
    refine ⟨d.world, ?_⟩
    rw [resolveWithReport_eq, started]
    simp only [ran, same]
    rfl

/-- With the legacy variant, reading artifacts ends with the records of all files or at the first file
that has none, and a call for one target with an empty cache ends as the reading of the artifacts does
which the tool lists. So it returns a report or fails with the artifact that could not be read, unless
that artifact has a label and a bare value in the place of a list, or is nested too deep. -/
theorem resolveWithReport_legacy {r : AspectRun} {s : Surroundings} {target : String} {label : Label}
    {invocation : Invocation} {w : World σ} (legacy : r.variant = .legacy)
    (patient : monitor.Patient) (read : Label.parse target = .ok label) (fresh : w.cache = .empty)
    (listed : (r.invoker.run s.executor "build" (r.options ++ [label.canonical.text]) r.root.text
      r.variant.artifactIn?).outcome = .ok invocation) :
    (∀ files paths outcome, (Variant.legacy.load files paths).outcome = outcome ↔
        Artifact.Reading files paths outcome) ∧
      (∀ records, Artifact.Reading s.files (invocation.lines.map r.artifactPath) (.ok records) →
        ∃ report v, resolveWithReport (r.tool s) monitor origin [target] w = .ok report v) ∧
      ∀ f, Artifact.Reading s.files (invocation.lines.map r.artifactPath) (.error f) →
        ∃ v, resolveWithReport (r.tool s) monitor origin [target] w = .error f v := by
  have ends := @resolveWithReport_fresh σ (r.tool s) monitor origin w _ _ patient read fresh
  rw [AspectRun.tool_outcome listed, legacy] at ends
  refine ⟨fun _ _ _ => Artifact.outcome_eq_iff, ?_, ?_⟩
  · intro records reading
    rw [Artifact.outcome_eq_iff.2 reading] at ends
    exact ends
  · intro f reading
    rw [Artifact.outcome_eq_iff.2 reading] at ends
    obtain ⟨v, failed⟩ := ends
    refine ⟨v, failed.trans ?_⟩
    cases reading <;> rfl

/-- A workspace in which every run lists one artifact. -/
def oneArtifact (document : String) : Surroundings where
  files := ⟨.directory [("w", .directory [("x.bzleclipse-build.json", .file document.toUTF8)])], []⟩
  executor _ := .ok ⟨0, "", ">>>x.bzleclipse-build.json"⟩
  accepts _ := true

def artifact : Path :=
  Path.ofString "/w/x.bzleclipse-build.json"

theorem readText_oneArtifact {document : String} (unix : '\r' ∉ document.toList) :
    (oneArtifact document).files.readText artifact = .ok document := by
  have segments : artifact.segments = ["w", "x.bzleclipse-build.json"] := by decide +kernel
  have absolute : artifact.isAbsolute = true := by decide +kernel
  refine FileTree.readText_of_lookup (FileTree.lookup_eq_ok_iff.2 ⟨by decide +kernel,
    ["w", "x.bzleclipse-build.json"], ?_, rfl⟩) unix
  rw [FileTree.segmentsOf, if_pos absolute, segments]
  rfl

theorem listed_oneArtifact (document : String) : (Listing.run.invoker.run (oneArtifact document).executor
    "build" (Listing.run.options ++ ["//a:a"]) Listing.run.root.text
    Listing.run.variant.artifactIn?).outcome = .ok ⟨["x.bzleclipse-build.json"], 0⟩ := by
  have listed : (Listing.run.invoker.run (oneArtifact "").executor "build"
      (Listing.run.options ++ ["//a:a"]) Listing.run.root.text
      Listing.run.variant.artifactIn?).outcome = .ok ⟨["x.bzleclipse-build.json"], 0⟩ :=
    eq_ok_of_toOption (by decide +kernel)
  exact listed

/-- An artifact with a number for its sources. -/
def bareSources : String :=
  "\x7b\"label\": \"//a:a\", \"sources\": 5\x7d"

theorem unlisted_bareSources : Artifact.Unlisted (oneArtifact bareSources).files artifact := by
  have read : Json.read bareSources =
      .ok (.map (Value.fields (.ofList [("label", .text "//a:a"), ("sources", .int 5)]))) :=
    Value.eq_of_isMapOf (by decide +kernel)
  exact ⟨_, _, readText_oneArtifact (by decide +kernel), read, ⟨_, rfl, rfl⟩, "sources",
    List.mem_cons_self, _, rfl, .int (by decide)⟩

/-- An artifact with one array too many inside each other. -/
def deepArrays : String :=
  String.ofList (List.replicate (nestingLimit + 1) '[') ++
    String.ofList (List.replicate (nestingLimit + 1) ']')

theorem nested_deepArrays : Artifact.Nested (oneArtifact deepArrays).files artifact :=
  ⟨_, readText_oneArtifact (by simp [deepArrays]), Json.read_brackets _⟩

/-- Each of the ways in which a call can end: the one artifact can be read, it has no label, a number for
its sources, or too many arrays inside each other. -/
theorem resolveWithReport_legacy_sample :
    let call (document : String) := resolveWithReport (Listing.run.tool (oneArtifact document)) .silent
      default ["//a:a"] Usage.beginning
    (∃ report v, call "\x7b\"label\": \"//a:a\"\x7d" = .ok report v) ∧
      (∃ v, call "\x7b\x7d" =
        .error (.invocation (.artifact artifact (.jsonRecord .missingLabel)) .empty) v) ∧
      (∃ v, call bareSources = .error (.kind .notIterable) v) ∧
      ∃ v, call deepArrays = .error .nestedTooDeep v := by
  intro call
  have read : Label.parse "//a:a" = .ok ⟨"", "a", some "a"⟩ := by decide +kernel
  have place : [Listing.run.artifactPath "x.bzleclipse-build.json"] = [artifact] := by decide +kernel
  have ends (document : String) := @resolveWithReport_legacy (List Snapshot) .silent default
    Listing.run (oneArtifact document) _ _ _ Usage.beginning rfl Monitor.silent_patient read rfl
    (listed_oneArtifact document)
  simp only [List.map_singleton, place] at ends
  have first {document : String} {fault : ArtifactFault}
      (refused : Artifact.readJson (oneArtifact document).files artifact = .error fault) :
      Artifact.FirstRefused (oneArtifact document).files [artifact] artifact fault :=
    ⟨[], [], rfl, nofun, refused⟩
  refine ⟨?_, ?_, ?_, ?_⟩
  · have loaded : Artifact.readJson (oneArtifact "\x7b\"label\": \"//a:a\"\x7d").files artifact =
        .ok ⟨"//a:a", [], [], [], "", ""⟩ := eq_ok_of_toOption (by decide +kernel)
    exact (ends _).2.1 _ (.all (.cons loaded .nil))
  · have found : (oneArtifact "\x7b\x7d").files.readText artifact = .ok "\x7b\x7d" :=
      readText_oneArtifact (by decide +kernel)
    have empty : Json.read "\x7b\x7d" = .ok (.map (Value.fields (.ofList []))) :=
      Value.eq_of_isMapOf (by decide +kernel)
    have refused : Artifact.readJson (oneArtifact "\x7b\x7d").files artifact =
        .error (.jsonRecord .missingLabel) := by
      simp only [Artifact.readJson, found, empty]
      rfl
    refine (ends _).2.2 _ (.refused (first refused) ?_ ?_)
    · intro unlisted
      obtain ⟨_, other⟩ := Artifact.exists_notIterable_iff.2 unlisted
      rw [refused] at other
      cases other
    · intro nested
      rw [Artifact.readJson_nestedTooDeep_iff.2 nested] at refused
      cases refused
  · obtain ⟨_, refused⟩ := Artifact.exists_notIterable_iff.2 unlisted_bareSources
    exact (ends _).2.2 _ (.unlisted (first refused) unlisted_bareSources)
  · have refused := Artifact.readJson_nestedTooDeep_iff.2 nested_deepArrays
    exact (ends _).2.2 _ (.nested (first refused) nested_deepArrays)

/-- A number in the place of a list ends the reading, and a call, with a failure that is none of the
run. -/
theorem resolveWithReport_bareSources :
    (Variant.legacy.load (oneArtifact bareSources).files [artifact]).outcome =
        .error (.kind .notIterable) ∧
      ∃ v, resolveWithReport (Listing.run.tool (oneArtifact bareSources)) .silent default ["//a:a"]
        Usage.beginning = .error (.kind .notIterable) v := by
  have read : Label.parse "//a:a" = .ok ⟨"", "a", some "a"⟩ := by decide +kernel
  obtain ⟨_, refused⟩ := Artifact.exists_notIterable_iff.2 unlisted_bareSources
  have loaded := Artifact.outcome_eq_iff.2
    (.unlisted ⟨[], [], rfl, nofun, refused⟩ unlisted_bareSources)
  have ends := @resolveWithReport_fresh (List Snapshot) (Listing.run.tool (oneArtifact bareSources))
    .silent default Usage.beginning _ _ Monitor.silent_patient read rfl
  have said := AspectRun.tool_outcome (listed_oneArtifact bareSources) Usage.beginning.invocations
  have text : (⟨"", "a", some "a"⟩ : Label).canonical.text = "//a:a" := by decide +kernel
  have place : [Listing.run.artifactPath "x.bzleclipse-build.json"] = [artifact] := by decide +kernel
  rw [List.map_singleton, place] at said
  rw [text, said.trans loaded] at ends
  exact ⟨loaded, ends⟩

end Cache

end WorkspaceImport
