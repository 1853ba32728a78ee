import WorkspaceImport.Proofs.Cache.Answers
import WorkspaceImport.Proofs.Cache.Expansion
/-!
Wildcards for which the tool brings nothing. The records that are known of the package of the wildcard
stand in for it then, whatever it stood for before; so what an earlier run for it brought is found
again as far as it is of that package. The package of a pattern over several packages is none of
these, so what was brought for it is not found again, and the pattern is missing.
-/
namespace WorkspaceImport

/-- After some runs the tool answers for a target without any record. -/
def Tool.Barren (tool : Tool) (earlier : List String) (target : String) : Prop :=
  ∃ records, (tool earlier target).outcome = .ok records ∧ records.values = []

/-- Whoever watches never makes the cache forget that something is known of a target. -/
def Monitor.Remembers {σ : Type} (monitor : Monitor σ) : Prop :=
  ∀ target, monitor.Keeps fun w => w.cache.Sound ∧ w.cache.lastGood.contains target = true

theorem Effect.remembers {σ : Type} {tool : Tool} {target : String} (v w : World σ)
    (effect : Effect tool v w) (start : v.cache.Sound ∧ v.cache.lastGood.contains target = true) :
    w.cache.Sound ∧ w.cache.lastGood.contains target = true :=
  ⟨effect.sound start.1, effect.contains_lastGood start.2⟩

theorem Action.Keeps.contains {σ α : Type} {a : Action σ α}
    (spared : ∀ known, Keeps (fun w => w.cache.Sound ∧ w.cache.lastGood = known) a) (target : String) :
    Keeps (fun w => w.cache.Sound ∧ w.cache.lastGood.contains target = true) a := by
  intro w start
  obtain ⟨sound, same⟩ := spared w.cache.lastGood w ⟨start.1, rfl⟩
  refine ⟨sound, ?_⟩
  rw [same]
  exact start.2

theorem Monitor.SparesKnown.remembers {σ : Type} {monitor : Monitor σ}
    (spares : monitor.SparesKnown) : monitor.Remembers := fun target => {
  subTask := fun text => .contains (fun known => (spares known).subTask text) target
  worked := fun units => .contains (fun known => (spares known).worked units) target
  isCanceled := .contains (fun known => (spares known).isCanceled) target }

theorem Monitor.UsesCache.remembers {σ : Type} {tool : Tool} {monitor : Monitor σ}
    (uses : monitor.UsesCache tool) : monitor.Remembers := fun _ =>
  uses _ (.of_effect Effect.remembers) fun _ _ start => start

namespace Call

variable {σ : Type} (tool : Tool) (origin : Origin) (c : Call σ)

theorem learn_nil (target : String) : c.learn tool origin target [] = c.ask tool origin target := by
  have none : Records.canonical [] = .empty := rfl
  rw [learn, none, Resolve.merge_empty]
  rfl

theorem answerWildcard_nil (target package : String) :
    c.answerWildcard tool origin target package [] =
      (c.ask tool origin target).fallBackPackage origin target package := by
  rw [← learn_nil]
  rfl

theorem fallBackPackage_invocations (target package : String) :
    (c.fallBackPackage origin target package).world.invocations = c.world.invocations := by
  simp only [fallBackPackage]
  split
  next => rfl
  next => exact World.tell_invocations _ _

variable {c} {key package : String} {info : PackageInfo}

theorem fallBackPackage_known (target : String)
    (known : c.world.cache.lastGood.get? key = some info) (owner : info.package = package) :
    (c.fallBackPackage origin target package).report.infos.contains key = true ∧
      key ∈ (c.fallBackPackage origin target package).report.degraded := by
  have stale : (c.world.cache.staleOf package).get? key = some info :=
    OrderedMap.get?_filter.2 ⟨known, decide_eq_true owner⟩
  have among := OrderedMap.contains_iff.2 ⟨info, stale⟩
  have some := OrderedMap.isEmpty_eq_false_iff.2 ⟨key, info, stale⟩
  simp only [fallBackPackage, some, Bool.false_eq_true, if_false, degradeAll, Report.foldl_addDegraded,
    OrderedMap.contains_update, among, Bool.true_or, true_and]
  exact List.mem_append_right _ (OrderedMap.contains_iff_mem_keys.1 among)

theorem fallBackPackage_missing (target : String)
    (none : (c.world.cache.staleOf package).isEmpty = true) :
    target ∈ (c.fallBackPackage origin target package).report.missing := by
  simp only [fallBackPackage, if_pos none]
  exact List.mem_append_right _ (List.mem_singleton.2 rfl)

end Call

namespace Resolve

variable {σ : Type} {tool : Tool} {monitor : Monitor σ} {origin : Origin} {targets : List String}
  {w v : World σ} {d : Call σ} {target : String} {label : Label} {earlier : List String}

/-- A call gets to a target of which no expansion is remembered, and after the runs that were made by
then the tool brings nothing for it. -/
inductive FallsBack (tool : Tool) (monitor : Monitor σ) (origin : Origin) (targets : List String)
    (w : World σ) (target : String) : List String → Prop where
  | intro {done rest : List String} {v u : World σ} {c : Call σ}
      (among : targets = done ++ target :: rest)
      (started : monitor.subTask Cache.resolveTask w = .ok () v)
      (went : requests tool monitor origin done ⟨.empty, v⟩ = .ok () c)
      (goesOn : monitor.isCanceled c.world = .ok false u)
      (unknown : u.cache.expansion? target = none)
      (barren : tool.Barren u.invocations (canonicalLabel target)) :
      FallsBack tool monitor origin targets w target u.invocations

theorem FallsBack.first {rest : List String} (started : monitor.subTask Cache.resolveTask w = .ok () w)
    (goesOn : monitor.isCanceled w = .ok false w) (unknown : w.cache.expansion? target = none)
    (barren : tool.Barren w.invocations (canonicalLabel target)) :
    FallsBack tool monitor origin (target :: rest) w target w.invocations :=
  .intro (List.nil_append _).symm started rfl goesOn unknown barren

theorem FallsBack.turns (fallsBack : FallsBack tool monitor origin targets w target earlier)
    (read : Label.parse target = .ok label) (wild : label.isWildcard = true)
    (started : monitor.subTask Cache.resolveTask w = .ok () v)
    (run : requests tool monitor origin targets ⟨.empty, v⟩ = .ok () d) :
    ∃ c, Turns tool monitor origin ⟨.empty, v⟩ c ∧ c.world.invocations = earlier ∧
      let next := (c.ask tool origin (canonicalLabel target)).fallBackPackage origin
        (canonicalLabel target) label.package
      next.world.invocations = canonicalLabel target :: earlier ∧
        Turn tool monitor origin c next ∧ Turns tool monitor origin next d := by
  obtain @⟨done, rest, v', u, c, among, begun, went, goesOn, unknown, records, answered, none⟩ :=
    fallsBack
  rw [started] at begun
  cases begun
  have spelled : canonicalLabel target = label.canonical.text := by
    rw [canonicalLabel, read]
  have reached := (requests_turns tool monitor origin done ⟨.empty, v⟩).of_ok went
  have turned : Turn tool monitor origin c _ := .asked c
  rw [goesOn] at turned
  have again : Label.parse (canonicalLabel target) = .ok label.canonical := parse_canonicalLabel read
  rw [among] at run
  obtain ⟨c', before, after⟩ := Step.forM_append_ok.1 run
  cases went.symm.trans before
  obtain ⟨b, first, others⟩ := Step.forM_cons_ok.1 after
  rw [request_eq, goesOn] at first
  simp only [read, wild, if_true] at first
  have failed : Turn tool monitor origin { c with world := u } _ :=
    .wildcard again (Label.isWildcard_canonical wild) unknown answered
  rw [none, Call.answerWildcard_nil, Label.package_canonical] at failed
  rw [← spelled, nestingLimit_eq_succ, wildcard_answered (c := { c with world := u }) tool monitor
    origin _ rfl again unknown answered, none, Call.answerWildcard_nil, Label.package_canonical] at first
  have reported := (reportWork_turns tool monitor origin _).of_ok first
  have ended := (requests_turns tool monitor origin rest b).of_ok others
  refine ⟨{ c with world := u }, .tail reached turned, rfl, ?_, failed, reported.trans ended⟩
  rw [Call.fallBackPackage_invocations, Call.ask, World.ask_invocations,
    lacksCommand_answered answered, if_neg Bool.false_ne_true]

variable (fallsBack : FallsBack tool monitor origin targets w target earlier)
  (read : Label.parse target = .ok label) (wild : label.isWildcard = true)
  (started : monitor.subTask Cache.resolveTask w = .ok () v)
  (run : requests tool monitor origin targets ⟨.empty, v⟩ = .ok () d)
include fallsBack read wild started run

theorem FallsBack.found (remembers : monitor.Remembers) (sound : w.cache.Sound) {key : String}
    (known : w.cache.lastGood.contains key = true) (owner : packageOf key = label.package) :
    d.report.infos.contains key = true := by
  obtain ⟨c, before, _, _, _, after⟩ := fallsBack.turns read wild started run
  have begun := ((remembers _).subTask Cache.resolveTask).ok started ⟨sound, known⟩
  obtain ⟨sound, still⟩ := before.moves.keep_world Effect.remembers (remembers _) begun
  obtain ⟨info, found⟩ := OrderedMap.contains_iff.1 still
  have inside := (sound.package_iff read found).2 owner
  have there := (Call.fallBackPackage_known (c := c.ask tool origin (canonicalLabel target)) origin
    (canonicalLabel target) (by rw [Call.ask, World.ask_cache]; exact found) inside).1
  exact after.moves.keep (fun _ _ move => move.contains) there

theorem FallsBack.missing (spares : monitor.SparesKnown) (sound : w.cache.Sound)
    (none : (d.world.cache.staleOf label.package).isEmpty = true) :
    canonicalLabel target ∈ d.report.missing := by
  have settled := Cache.requests_settled sound spares started run
  obtain ⟨c, before, _, _, failed, after⟩ := fallsBack.turns read wild started run
  have again := parse_canonicalLabel read
  by_cases unknown : (c.world.cache.staleOf label.package).isEmpty = true
  · have there := Call.fallBackPackage_missing (c := c.ask tool origin (canonicalLabel target)) origin
      (canonicalLabel target) (by rw [Call.ask, World.ask_cache]; exact unknown)
    have answers := after.moves.keep (fun _ _ move => move.answers) (.inr there)
    refine answers.resolve_left fun present => ?_
    obtain ⟨info, found⟩ := OrderedMap.contains_iff.1 present
    have absent := Cache.get?_of_staleOf_isEmpty settled.sound again
      (by rw [Label.package_canonical]; exact none)
    rw [settled.found _ info found] at absent
    cases absent
  · -- what is known of the package then is known of it at the end
    have soundThen : c.world.cache.Sound :=
      before.moves.keep_world (J := fun w => w.cache.Sound) (fun _ _ effect => effect.sound)
        spares.sound ((spares.sound.subTask Cache.resolveTask).ok started sound)
    obtain ⟨key, known, owner⟩ := (soundThen.staleOf_iff read).1 (Bool.eq_false_iff.2 unknown)
    have onward : Turns tool monitor origin c d := .head failed after
    have kept := onward.moves.keep_world Effect.remembers (spares.remembers key) ⟨soundThen, known⟩
    rw [(settled.sound.staleOf_iff read).2 ⟨key, kept.2, owner⟩] at none
    cases none

end Resolve

theorem Snapshot.Reachable.known {tool : Tool} {s : Snapshot} (reached : s.Reachable tool)
    {target : String} {runs : List String} {records : Records}
    (ran : target :: runs <:+ History.invoked s.journal)
    (answered : (tool runs target).outcome = .ok records) {info : PackageInfo}
    (member : info ∈ records.values) :
    s.cache.lastGood.contains (canonicalLabel info.label) = true := by
  rw [reached.recalls.lastGood]
  exact History.contains_lastGood (History.loaded_mem ran answered) member

/-- A wildcard was run for earlier, and now it is asked for in vain. Of the targets for which the
earlier run brought records, those in the package of the wildcard are found again, as they were last
known when the call returns if nobody has brought newer records meanwhile; and if nothing is known of
that package, then the wildcard is missing. -/
theorem Cache.resolveWithReport_packageFallback {σ : Type} {tool : Tool} {monitor : Monitor σ}
    {origin : Origin} {targets : List String} {w w' : World σ} {report : Report} {target : String}
    {label : Label} {runs earlier : List String} {records : Records}
    (reached : w.snapshot.Reachable tool) (remembers : monitor.Remembers)
    (read : Label.parse target = .ok label) (wild : label.isWildcard = true)
    (ran : canonicalLabel target :: runs <:+ w.invocations)
    (brought : (tool runs (canonicalLabel target)).outcome = .ok records)
    (fallsBack : Resolve.FallsBack tool monitor origin targets w target earlier)
    (returned : resolveWithReport tool monitor origin targets w = .ok report w') :
    (∀ info ∈ records.values, info.package = label.package →
      report.infos.contains (canonicalLabel info.label) = true ∧
      (monitor.SparesKnown → report.infos.get? (canonicalLabel info.label) =
        w'.cache.lastGood.get? (canonicalLabel info.label))) ∧
    (monitor.SparesKnown → (w'.cache.staleOf label.package).isEmpty = true →
      canonicalLabel target ∈ report.missing) := by
  obtain ⟨v, d, u, started, run, ended, rfl, rfl⟩ := resolveWithReport_ok returned
  constructor
  · intro info member owner
    have known := reached.known ran brought member
    have inside := packageOf_congr read owner (canonicalLabel_canonicalLabel info.label)
    have present := fallsBack.found read wild started run remembers reached.sound known inside
    refine ⟨present, fun spares => ?_⟩
    have settled := resolveWithReport_settled reached.sound spares returned
    obtain ⟨shown, there⟩ := OrderedMap.contains_iff.1 present
    rw [there, settled.found _ _ there]
  · intro spares none
    have same := ((spares _).worked _).ok ended
      ⟨(requests_settled reached.sound spares started run).sound, rfl⟩
    rw [World.tell_cache, Cache.staleOf, same.2] at none
    exact fallsBack.missing read wild started run spares reached.sound none

/-- A tool that brings nothing for a target for which it was run before. -/
def Tool.fading (tool : Tool) : Tool := fun earlier target =>
  if earlier.contains target then ⟨[], .ok .empty⟩ else tool earlier target

theorem Tool.fading_barren (tool : Tool) {earlier : List String} {target : String}
    (met : earlier.contains target = true) : tool.fading.Barren earlier target :=
  ⟨.empty, by rw [fading, if_pos met], rfl⟩

/-- The targets are resolved once, and then everything is flushed. -/
def Usage.flushed (targets : List String) : Usage :=
  .resolve default targets (fun _ => .done false) (fun _ => .done false) (.done false)
    fun _ => .flush (.done true)

/-- The wildcard stood for a target of its package and for another one. After a flush the tool brings
nothing for it, and the target of the package is found again. -/
theorem Cache.resolveWithReport_packageFallback_sample :
    let tool := (Tool.listing [("//a:*", ["//a:x", "//b:y"])]).fading
    let w := (Usage.flushed ["//a:*"]).ending tool
    ∃ report w', resolveWithReport tool Monitor.flushing default [" //a:*"] w = .ok report w' ∧
      report.infos.contains "//a:x" = true ∧
      report.infos.get? "//a:x" = w'.cache.lastGood.get? "//a:x" ∧
      report.infos.contains "//b:y" = false := by
  intro tool w
  obtain ⟨report, w', returned⟩ := eq_ok_of_answer?
    (r := resolveWithReport tool Monitor.flushing default [" //a:*"] w) (by decide +kernel)
  have spelled : canonicalLabel " //a:*" = "//a:*" := by decide +kernel
  have ran : canonicalLabel " //a:*" :: [] <:+ w.invocations := by decide +kernel
  have fallsBack : Resolve.FallsBack tool Monitor.flushing default [" //a:*"] w " //a:*" w.invocations :=
    .first rfl rfl (by decide +kernel) (Tool.fading_barren _ (by decide +kernel))
  have spares : (Monitor.flushing : Monitor (List Snapshot)).SparesKnown :=
    Monitor.flushing_onlyFlushes.spares
  let records := Tool.listed [("//a:*", ["//a:x", "//b:y"])] "//a:*"
  have brought : (tool [] (canonicalLabel " //a:*")).outcome = .ok records := by
    rw [spelled]
    rfl
  have read : Label.parse " //a:*" = .ok ⟨"", "a", some "*"⟩ := by decide +kernel
  have law := (resolveWithReport_packageFallback (Usage.ending_reachable tool _) spares.remembers read
    (by decide +kernel) ran brought fallsBack returned).1
  have member := List.get_mem records.values ⟨0, by decide +kernel⟩
  have owned : (records.values.get ⟨0, by decide +kernel⟩).package = "//a" ∧
      canonicalLabel (records.values.get ⟨0, by decide +kernel⟩).label = "//a:x" := by decide +kernel
  obtain ⟨found, same⟩ := law _ member owned.1
  have absent : (answer? (resolveWithReport tool Monitor.flushing default [" //a:*"] w)).map
      (fun report => report.infos.contains "//b:y") = some false := by decide +kernel
  rw [owned.2] at found same
  rw [returned] at absent
  exact ⟨report, w', returned, found, same spares, Option.some.inj absent⟩

/-- A pattern over several packages that stood for a target. After a flush the tool brings nothing for
the pattern; the target is still known, but it is not found again. -/
theorem Cache.resolveWithReport_packageFallback_recursive :
    let tool := (Tool.listing [("//a/...", ["//a:x"])]).fading
    let w := (Usage.flushed ["//a/..."]).ending tool
    let r := resolveWithReport tool .silent default ["//a/..."] w
    w.snapshot.Reachable tool ∧ w.invocations = ["//a/..."] ∧
      (tool [] "//a/...").outcome.toOption.map (fun records => records.values.map (·.label)) =
        some ["//a:x"] ∧
      Resolve.FallsBack tool .silent default ["//a/..."] w "//a/..." w.invocations ∧
      (stateAfter r).cache.lastGood.contains "//a:x" = true ∧
      (answer? r).map (fun report => (report.infos.contains "//a:x", report.missing)) =
        some (false, ["//a/..."]) := by
  intro tool w r
  have fallsBack : Resolve.FallsBack tool .silent default ["//a/..."] w "//a/..." w.invocations :=
    .first rfl rfl (by decide +kernel) (Tool.fading_barren _ (by decide +kernel))
  refine ⟨Usage.ending_reachable tool _, ?_, ?_, fallsBack, ?_, ?_⟩ <;> decide +kernel

end WorkspaceImport
