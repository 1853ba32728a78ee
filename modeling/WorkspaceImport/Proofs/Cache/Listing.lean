import WorkspaceImport.Proofs.Artifact.Legacy
import WorkspaceImport.Proofs.Cache.Settled
import WorkspaceImport.Session
/-!
Which of several artifacts for one target counts. The files of a run are first told apart by their
labels as they are spelled, and then by the canonical spelling. A label that is met again keeps its
place, so of the spellings of a target the one counts whose first file comes last, and of the files
with this spelling the last one.
-/
namespace WorkspaceImport

namespace Records

/-- The spellings of a target in a listing, in the order in which they are first met. -/
def spellings (infos : List PackageInfo) (target : String) : List String :=
  ((infos.map (·.label)).filter (canonicalLabel · = target)).eraseDups

theorem get?_ofInfos (infos : List PackageInfo) (label : String) :
    (ofInfos infos).get? label = (infos.filter (·.label = label)).getLast? :=
  OrderedMap.get?_ofList_own _ infos label

theorem keys_ofInfos (infos : List PackageInfo) :
    (ofInfos infos).keys = (infos.map (·.label)).eraseDups := by
  rw [ofInfos, OrderedMap.keys_ofList, List.map_map]
  rfl

theorem label_of_get?_ofInfos {infos : List PackageInfo} {label : String} {info : PackageInfo}
    (found : (ofInfos infos).get? label = some info) : info.label = label := by
  rw [get?_ofInfos] at found
  exact of_decide_eq_true (List.mem_filter.1 (List.mem_of_getLast? found)).2

theorem labels_ofInfos (infos : List PackageInfo) :
    (ofInfos infos).values.map (·.label) = (ofInfos infos).keys := by
  rw [OrderedMap.values, OrderedMap.keys, List.map_map]
  apply List.map_congr_left
  intro e member
  exact label_of_get?_ofInfos (OrderedMap.get?_eq_some_iff.2 member)

/-- What is kept for a target has the spelling whose first record comes last, and is the last with this
spelling. -/
theorem get?_canonical_ofInfos {infos : List PackageInfo} {target : String} {kept : PackageInfo}
    (found : (canonical (ofInfos infos).values).get? target = some kept) :
    (spellings infos target).getLast? = some kept.label ∧
      (infos.filter (·.label = kept.label)).getLast? = some kept := by
  rw [canonical, OrderedMap.get?_ofList_own] at found
  constructor
  -- A label keeps the place at which it was first met, and the last of them decides.
  · calc (spellings infos target).getLast?
        = ((ofInfos infos).keys.filter (canonicalLabel · = target)).getLast? := by
          rw [spellings, eraseDups_filter, keys_ofInfos]
      _ = (((ofInfos infos).values.filter (canonicalLabel ·.label = target)).getLast?).map
            (·.label) := by
          rw [← labels_ofInfos, List.filter_map, List.getLast?_map]
          rfl
      _ = some kept.label := by rw [found, Option.map_some]
  · obtain ⟨⟨label, _⟩, member, rfl⟩ :=
      List.mem_map.1 (List.mem_filter.1 (List.mem_of_getLast? found)).1
    have stands := OrderedMap.get?_eq_some_iff.2 member
    rw [label_of_get?_ofInfos stands, ← get?_ofInfos]
    exact stands

theorem exists_kept {infos : List PackageInfo} {info : PackageInfo} (member : info ∈ infos) :
    ∃ kept, (canonical (ofInfos infos).values).get? (canonicalLabel info.label) = some kept := by
  have met : info ∈ infos.filter (·.label = info.label) :=
    List.mem_filter.2 ⟨member, decide_eq_true rfl⟩
  obtain ⟨last, found⟩ := Option.isSome_iff_exists.1
    (List.getLast?_isSome.2 (List.ne_nil_of_mem met))
  rw [← get?_ofInfos] at found
  have inside : last ∈ (ofInfos infos).values :=
    List.mem_map.2 ⟨_, OrderedMap.get?_eq_some_iff.1 found, rfl⟩
  have present := contains_canonical inside
  rw [label_of_get?_ofInfos found] at present
  exact OrderedMap.contains_iff.1 present

theorem last_spelled {infos : List PackageInfo} {target : String} {last : PackageInfo}
    (found : (infos.filter (canonicalLabel ·.label = target)).getLast? = some last) :
    (infos.filter (·.label = last.label)).getLast? = some last := by
  have own : canonicalLabel last.label = target :=
    of_decide_eq_true (List.mem_filter.1 (List.mem_of_getLast? found)).2
  have narrowed : infos.filter (·.label = last.label) =
      (infos.filter (canonicalLabel ·.label = target)).filter (·.label = last.label) := by
    rw [List.filter_filter]
    apply List.filter_congr
    intro info _
    by_cases same : info.label = last.label <;> simp [same, own]
  obtain ⟨before, split⟩ := List.getLast?_eq_some_iff.1 found
  have itself : [last].filter (·.label = last.label) = [last] := by simp
  rw [narrowed, split, List.filter_append, itself, List.getLast?_concat]

end Records

namespace Variant

/-- The record in one artifact. -/
def read (v : Variant) (files : FileTree) (path : Path) : Except ArtifactFault PackageInfo :=
  match v with
  | .legacy => Artifact.readJson files path
  | .modern => Artifact.readIdeInfo files path

variable {files : FileTree} {paths : List Path} {infos : List PackageInfo}

theorem loadModern_of_all
    (all : List.Forall₂ (fun path info => Artifact.readIdeInfo files path = .ok info) paths infos) :
    loadModern files paths = ⟨[], .ok infos⟩ := by
  induction all with
  | nil => rfl
  | cons first _ ih =>
    simp only [loadModern, first, ih]
    rfl

theorem load_of_all {v : Variant}
    (all : List.Forall₂ (fun path info => v.read files path = .ok info) paths infos) :
    v.load files paths = ⟨[], .ok (Records.ofInfos infos)⟩ := by
  cases v with
  | legacy => simp only [load, Artifact.readAllJson_eq_ok_iff.2 all]
  | modern =>
    simp only [load, loadModern_of_all all]
    rfl

end Variant

section Outcome

variable {r : AspectRun} {s : Surroundings} {target : String} {invocation : Invocation}

theorem AspectRun.tool_outcome
    (listed : (r.invoker.run s.executor "build" (r.options ++ [target]) r.root.text
      r.variant.artifactIn?).outcome = .ok invocation) (runs : List String) :
    (r.tool s runs target).outcome =
      (r.variant.load s.files (invocation.lines.map r.artifactPath)).outcome := by
  simp only [tool, listed]

theorem AspectRun.tool_listing {infos : List PackageInfo}
    (listed : (r.invoker.run s.executor "build" (r.options ++ [target]) r.root.text
      r.variant.artifactIn?).outcome = .ok invocation)
    (loaded : List.Forall₂ (fun line info => r.variant.read s.files (r.artifactPath line) = .ok info)
      invocation.lines infos) (runs : List String) :
    (r.tool s runs target).outcome = .ok (Records.ofInfos infos) := by
  rw [tool_outcome listed, Variant.load_of_all (List.forall₂_map_left_iff.2 loaded)]

end Outcome

/-- Legacy artifacts of one run, by their names and the labels that stand in them; the one source of
each is its name. -/
abbrev Listing := List (String × String)

namespace Listing

def record (artifact : String × String) : PackageInfo :=
  ⟨artifact.2, [artifact.1], [], [], "", ""⟩

def document (artifact : String × String) : String :=
  "\x7b\"label\": \"" ++ artifact.2 ++ "\", \"sources\": [\"" ++ artifact.1 ++ "\"]\x7d"

def fileName (artifact : String × String) : String :=
  artifact.1 ++ Variant.legacy.artifactSuffix

def run : AspectRun :=
  ⟨.legacy, [], ⟨.text "bazel", .null⟩, Path.ofString "/w"⟩

/-- A workspace in which every run lists the same artifacts. -/
def surroundings (l : Listing) : Surroundings where
  files := ⟨.directory [("w", .directory (l.map fun artifact =>
    (fileName artifact, .file (document artifact).toUTF8)))], []⟩
  executor _ := .ok ⟨0, "", String.intercalate "\n" (l.map fun artifact => ">>>" ++ fileName artifact)⟩
  accepts _ := true

theorem loaded {l : Listing} (read : ∀ artifact ∈ l, (run.variant.read l.surroundings.files
      (run.artifactPath (fileName artifact))).toOption = some (record artifact)) :
    List.Forall₂ (fun line info =>
      run.variant.read l.surroundings.files (run.artifactPath line) = .ok info)
      (l.map fileName) (l.map record) := by
  rw [List.forall₂_map_left_iff, List.forall₂_map_right_iff, List.forall₂_same]
  exact fun artifact member => eq_ok_of_toOption (read artifact member)

end Listing

namespace Resolve

variable {σ : Type} {origin : Origin}

/-- One run of the tool whose artifacts can all be read. For every target among them one record is
kept, the same in the answer, in a report, and in both parts of the cache: the last one with that
spelling of the target whose first record comes last. It is the last record of the target exactly if
the first record of every other spelling comes before the first one of its own. -/
theorem compute_listing {r : AspectRun} {s : Surroundings} {target : String}
    {invocation : Invocation} {infos : List PackageInfo}
    (listed : (r.invoker.run s.executor "build" (r.options ++ [target]) r.root.text
      r.variant.artifactIn?).outcome = .ok invocation)
    (loaded : List.Forall₂ (fun line info => r.variant.read s.files (r.artifactPath line) = .ok info)
      invocation.lines infos) (c : Call σ) :
    ∃ found d, compute (r.tool s) origin target c = .ok found d ∧ d.report = c.report ∧
      ∀ key last, (infos.filter (canonicalLabel ·.label = key)).getLast? = some last →
        ∃ kept, found.get? key = some kept ∧ (d.report.merge found).infos.get? key = some kept ∧
          d.world.cache.current.get? key = some kept ∧
          d.world.cache.lastGood.get? key = some kept ∧
          (Records.spellings infos key).getLast? = some kept.label ∧
          (infos.filter (·.label = kept.label)).getLast? = some kept ∧
          (kept = last ↔ (Records.spellings infos key).getLast? = some last.label) := by
  have answered := AspectRun.tool_listing listed loaded c.world.invocations
  refine ⟨_, _, compute_ok (r.tool s) origin answered, rfl, ?_⟩
  intro key last newest
  have own : canonicalLabel last.label = key :=
    of_decide_eq_true (List.mem_filter.1 (List.mem_of_getLast? newest)).2
  obtain ⟨kept, found⟩ :=
    Records.exists_kept (List.mem_filter.1 (List.mem_of_getLast? newest)).1
  rw [own] at found
  obtain ⟨spelled, among⟩ := Records.get?_canonical_ofInfos found
  refine ⟨kept, found, ?_, ?_, ?_, spelled, among, ?_⟩
  · simp only [Report.merge, OrderedMap.get?_update, found, Option.some_or]
  · simp only [World.foldl_produce_cache, OrderedMap.get?_update, found, Option.some_or]
  · simp only [World.foldl_produce_cache, OrderedMap.get?_update, found, Option.some_or]
  · constructor
    · rintro rfl
      exact spelled
    · intro same
      have label : kept.label = last.label := Option.some.inj (spelled.symm.trans same)
      have newest' := Records.last_spelled newest
      rw [label, newest'] at among
      exact (Option.some.inj among).symm

/-- Of three artifacts the last one has the spelling that was met last. -/
theorem compute_listing_sample :
    let l : Listing := [("x", "//a:a"), ("y", "//a"), ("z", "//a")]
    let c : Call (List Snapshot) := ⟨.empty, .empty, [], []⟩
    ∃ found d, compute (Listing.run.tool l.surroundings) default "//a:a" c = .ok found d ∧
      found.get? "//a:a" = some (Listing.record ("z", "//a")) ∧
      d.world.cache.current.get? "//a:a" = some (Listing.record ("z", "//a")) ∧
      d.world.cache.lastGood.get? "//a:a" = some (Listing.record ("z", "//a")) := by
  intro l c
  obtain ⟨found, d, answered, _, kept⟩ := @compute_listing (List Snapshot) default Listing.run
    l.surroundings "//a:a" ⟨l.map Listing.fileName, 0⟩ (l.map Listing.record)
    (eq_ok_of_toOption (by decide +kernel)) (Listing.loaded (by decide +kernel)) c
  obtain ⟨info, answer, _, current, lastGood, _, _, last⟩ :=
    kept "//a:a" (Listing.record ("z", "//a")) (by decide +kernel)
  obtain rfl := last.2 (by decide +kernel)
  exact ⟨found, d, answered, answer, current, lastGood⟩

/-- The last of three artifacts for a target does not count, because it repeats the label of the
first. -/
theorem compute_listing_repeatedLabel :
    let l : Listing := [("x", "//a:a"), ("y", "//a"), ("z", "//a:a")]
    let c : Call (List Snapshot) := ⟨.empty, .empty, [], []⟩
    let r := compute (Listing.run.tool l.surroundings) default "//a:a" c
    ((l.map Listing.record).filter (canonicalLabel ·.label = "//a:a")).getLast? =
        some (Listing.record ("z", "//a:a")) ∧
      (answer? r).bind (·.get? "//a:a") = some (Listing.record ("y", "//a")) ∧
      (stateAfter r).world.cache.current.get? "//a:a" = some (Listing.record ("y", "//a")) ∧
      (stateAfter r).world.cache.lastGood.get? "//a:a" = some (Listing.record ("y", "//a")) := by
  intro l c r
  have answered := @AspectRun.tool_listing Listing.run l.surroundings "//a:a"
    ⟨l.map Listing.fileName, 0⟩ (l.map Listing.record)
    (eq_ok_of_toOption (by decide +kernel)) (Listing.loaded (by decide +kernel)) []
  have ran : r = _ := compute_ok (c := c) (Listing.run.tool l.surroundings) default answered
  simp only [ran, answer?, stateAfter, World.foldl_produce_cache, Option.bind_some]
  refine ⟨?_, ?_, ?_, ?_⟩ <;> decide +kernel

end Resolve

end WorkspaceImport
