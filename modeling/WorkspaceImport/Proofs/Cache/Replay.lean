import WorkspaceImport.Proofs.Cache.Smooth
/-!
Calls that are answered from the cache alone. If all that the requested targets need is cached, then a
call for them runs the tool for nothing and leaves what is remembered as it is: it hits every target
that the requested ones stand for, in their order. So it is with a call that is repeated after it never
fell back, and the second report has the records of the first.
-/
namespace WorkspaceImport

variable {σ : Type} {tool : Tool} {monitor : Monitor σ} {origin : Origin}

/-- Since a session, all that a call did was to answer some targets from the cache, one after the
other. -/
structure Call.Replays (w : World σ) (served : List String) (c : Call σ) : Prop where
  invocations : c.world.invocations = w.invocations
  cache : c.world.cache = { w.cache with hits := w.cache.hits + served.length }
  hits : c.report.hits = served
  computed : c.report.computed = []
  degraded : c.report.degraded = []
  missing : c.report.missing = []
  order : c.report.infos.keys = served.eraseDups
  found : ∀ key ∈ served, c.report.infos.get? key = w.cache.current.get? key

namespace Call.Replays

variable {w : World σ} {served : List String} {c : Call σ}

theorem start {v : World σ} (alike : v.Alike w) : Replays w [] ⟨.empty, v⟩ where
  invocations := alike.invocations
  cache := alike.cache
  hits := rfl
  computed := rfl
  degraded := rfl
  missing := rfl
  order := rfl
  found _ member := by cases member

theorem change (replays : c.Replays w served) {v : World σ} (alike : v.Alike c.world) :
    Replays w served { c with world := v } :=
  { replays with
    invocations := alike.invocations.trans replays.invocations
    cache := alike.cache.trans replays.cache }

theorem hit (replays : c.Replays w served) {target : String} {info : PackageInfo}
    (cached : w.cache.current.get? target = some info) :
    (c.hit origin target info).Replays w (served ++ [target]) where
  invocations := replays.invocations
  cache := by
    simp only [Call.hit, World.hit, replays.cache, Cache.countHit, List.length_append,
      List.length_singleton, Nat.add_assoc]
  hits := by simp only [Call.hit, Report.addHit, replays.hits]
  computed := replays.computed
  degraded := replays.degraded
  missing := replays.missing
  order := by
    simp only [Call.hit, Report.addHit, OrderedMap.keys_insert, replays.order, List.mem_eraseDups,
      eraseDups_concat]
  found key member := by
    simp only [Call.hit, Report.addHit, OrderedMap.get?_insert]
    split
    next same => rw [← same, cached]
    next differ =>
      refine replays.found key ((List.mem_append.1 member).resolve_right ?_)
      exact fun last => differ (List.mem_singleton.1 last).symm

theorem current (replays : c.Replays w served) : c.world.cache.current = w.cache.current := by
  rw [replays.cache]

theorem expansion? (replays : c.Replays w served) (target : String) :
    c.world.cache.expansion? target = w.cache.expansion? target := by
  rw [replays.cache]
  rfl

end Call.Replays

namespace Resolve

variable (tool origin) {w : World σ} {served : List String} {c : Call σ}

theorem literal_replays (passive : monitor.Passive) (replays : c.Replays w served) {target : String}
    (cached : w.cache.current.contains target = true) :
    ∃ d, literal tool monitor origin target c = .ok () d ∧ d.Replays w (served ++ [target]) := by
  obtain ⟨info, found⟩ := OrderedMap.contains_iff.1 cached
  obtain ⟨v, told, alike⟩ := passive.reportWork (c.hit origin target info)
  rw [literal_hit tool monitor origin (by rw [replays.current]; exact found)]
  exact ⟨_, told, (replays.hit found).change alike⟩

theorem members_replay (passive : monitor.Passive) {depth : Nat} {visiting members : List String}
    (replays : c.Replays w served)
    (cached : ∀ sub ∈ members, w.cache.current.contains sub = true ∧ NamesTarget sub) :
    ∃ d, members.forM (member tool monitor origin depth visiting) c = .ok () d ∧
      d.Replays w (served ++ members) := by
  induction members generalizing c served with
  | nil => exact ⟨c, rfl, by rw [List.append_nil]; exact replays⟩
  | cons sub rest ih =>
    obtain ⟨⟨present, label, read, single⟩, others⟩ := List.forall_mem_cons.1 cached
    obtain ⟨b, first, middle⟩ :=
      literal_replays tool origin passive replays present
    obtain ⟨d, rest_run, last⟩ := ih middle others
    refine ⟨d, Step.forM_cons_ok.2 ⟨b, ?_, rest_run⟩, ?_⟩
    · simp only [member, read, single, Bool.false_eq_true, if_false, first]
    · rw [← List.append_cons] at last
      exact last

theorem request_replays (passive : monitor.Passive) (replays : c.Replays w served) {target : String}
    {label : Label} (read : Label.parse target = .ok label) (covered : w.cache.Covers target) :
    (∃ d, request tool monitor origin target c = .ok () d ∧
      d.Replays w (served ++ w.cache.standsFor target)) ∨
    ∃ d, request tool monitor origin target c = .error (.resolveCanceled target) d ∧
      d.Replays w served ∧ ∃ u v, monitor.isCanceled u = .ok true v := by
  obtain ⟨canceled, v, asked, alike⟩ := passive.isCanceled c.world
  have spelled : canonicalLabel target = label.canonical.text := by
    rw [canonicalLabel, read]
  obtain ⟨single, wild⟩ := covered label read
  have same := replays.change alike
  rw [request_eq, asked]
  cases canceled with
  | true => exact .inr ⟨_, rfl, same, _, _, asked⟩
  | false =>
    left
    simp only [read, ← spelled]
    cases star : label.isWildcard with
    | false =>
      rw [Cache.standsFor_literal read star, if_neg Bool.false_ne_true]
      exact literal_replays tool origin passive same (single star)
    | true =>
      obtain ⟨members, known, cached⟩ := wild star
      rw [Cache.standsFor_wildcard read star known, if_pos rfl, nestingLimit_eq_succ,
        wildcard_remembered tool monitor origin _ rfl]
      · exact members_replay tool origin passive same cached
      · exact (same.expansion? target).trans known

theorem requests_replay (passive : monitor.Passive) {targets : List String}
    (replays : c.Replays w served)
    (covered : ∀ target ∈ targets, (∃ label, Label.parse target = .ok label) ∧
      w.cache.Covers target) :
    (∃ d, requests tool monitor origin targets c = .ok () d ∧
      d.Replays w (served ++ targets.flatMap w.cache.standsFor)) ∨
    ∃ target ∈ targets, ∃ d some, requests tool monitor origin targets c =
        .error (.resolveCanceled target) d ∧
      d.Replays w some ∧ ∃ u v, monitor.isCanceled u = .ok true v := by
  induction targets generalizing c served with
  | nil => exact .inl ⟨c, rfl, by rw [List.flatMap_nil, List.append_nil]; exact replays⟩
  | cons target rest ih =>
    obtain ⟨⟨⟨label, read⟩, first⟩, others⟩ := List.forall_mem_cons.1 covered
    rw [requests, Step.forM_cons_apply]
    rcases request_replays tool origin passive replays read first with
      ⟨b, run, middle⟩ | ⟨d, stopped, last, canceled⟩
    · rw [run]
      rcases ih middle others with ⟨d, rest_run, last⟩ | ⟨other, member, d, some, stopped, last⟩
      · refine .inl ⟨d, rest_run, ?_⟩
        rw [List.flatMap_cons, ← List.append_assoc]
        exact last
      · exact .inr ⟨other, List.mem_cons_of_mem _ member, d, some, stopped, last⟩
    · rw [stopped]
      exact .inr ⟨target, List.mem_cons_self, d, served, rfl, last, canceled⟩

end Resolve

namespace Cache

/-- A call whose targets are all cached is answered from the cache alone. Whoever watches it may
cancel it on the way; then it has not run the tool either. -/
theorem resolveWithReport_replays (passive : monitor.Passive) {targets : List String} {w : World σ}
    (covered : ∀ target ∈ targets, (∃ label, Label.parse target = .ok label) ∧
      w.cache.Covers target) :
    (∃ report w', resolveWithReport tool monitor origin targets w = .ok report w' ∧
      Call.Replays w (targets.flatMap w.cache.standsFor) ⟨report, w'⟩) ∨
    ∃ target ∈ targets, ∃ w', resolveWithReport tool monitor origin targets w =
        .error (.resolveCanceled target) w' ∧
      w'.invocations = w.invocations ∧ (∃ hits, w'.cache = { w.cache with hits := hits }) ∧
      ∃ u v, monitor.isCanceled u = .ok true v := by
  obtain ⟨v, started, alike⟩ := passive.subTask resolveTask w
  rcases Resolve.requests_replay tool origin passive (.start alike) covered with
    ⟨d, run, replays⟩ | ⟨target, member, d, some, stopped, replays, canceled⟩
  · obtain ⟨w', returned, ended⟩ := passive.resolveWithReport started run
    exact .inl ⟨d.report, w', returned, replays.change ended⟩
  · refine .inr ⟨target, member, d.world, ?_, replays.invocations, ⟨_, replays.cache⟩, canceled⟩
    rw [resolveWithReport_eq, started]
    simp only [stopped, Resolve.withFound]

/-- Warm replay. If nothing but targets that stand for themselves was ever brought, and a call returns
that never fell back, then the same call again is answered from the cache alone, with whatever tool:
its hits are the requested targets in their canonical spelling, with the remembered expansions in the
place of wildcards, and for each of them it finds the record that the first call found. -/
theorem resolveWithReport_again {targets : List String} {w w' : World σ} {report : Report}
    (reached : w.snapshot.Reachable tool) (onlooks : monitor.Onlooks)
    (returned : resolveWithReport tool monitor origin targets w = .ok report w')
    (plain : ∀ e ∈ w'.journal, ∀ key, e.produces key = true → NamesTarget key)
    (smooth : ∃ said, w'.journal = said ++ w.journal ∧ ∀ e ∈ said, e.fallsBack = false) :
    (∀ target ∈ targets, ∃ label, Label.parse target = .ok label ∧
      (label.isWildcard = true → (w'.cache.expansion? target).isSome = true)) ∧
    ∀ (other : Tool) (again : Monitor σ) (origin' : Origin), again.Passive →
      (∃ report' w'', resolveWithReport other again origin' targets w' = .ok report' w'' ∧
        Call.Replays w' (targets.flatMap w'.cache.standsFor) ⟨report', w''⟩ ∧
        ∀ key ∈ report'.hits, ∃ info, report'.infos.get? key = some info ∧
          report.infos.get? key = some info) ∨
      ∃ target ∈ targets, ∃ w'', resolveWithReport other again origin' targets w' =
          .error (.resolveCanceled target) w'' ∧
        w''.invocations = w'.invocations ∧ (∃ hits, w''.cache = { w'.cache with hits := hits }) ∧
        ∃ u v, again.isCanceled u = .ok true v := by
  obtain ⟨said, grown, calm⟩ := smooth
  -- No fallback is new, so their number is that from before the call.
  have even : w'.Smooth (w.journal.countP Event.fallsBack) := by
    refine ⟨?_, plain⟩
    rw [grown, List.countP_append, List.countP_eq_zero.2 fun e member => by simp [calm e member],
      Nat.zero_add]
  obtain ⟨v, d, u, started, run, ended, rfl, rfl⟩ := resolveWithReport_ok returned
  have later : d.world.journal <:+ (u.tell (Resolve.warnings origin d.report)).journal :=
    (((onlooks.adds _).worked _).ok ended (List.suffix_refl _)).trans (World.suffix_tell _ _)
  have alike := (World.Alike.tell u (Resolve.warnings origin d.report)).trans
    (onlooks.toPassive.alike_of_worked ended)
  obtain ⟨covered, current⟩ := requests_covered reached onlooks started run (even.earlier later)
  rw [← alike.cache] at covered current
  constructor
  · intro target member
    obtain ⟨⟨label, read⟩, covers, _⟩ := covered target member
    refine ⟨label, read, fun wild => ?_⟩
    obtain ⟨members, known, _⟩ := (covers label read).2 wild
    exact Option.isSome_iff_exists.2 ⟨members, known⟩
  · intro other again origin' passive
    refine (resolveWithReport_replays passive fun target member =>
      ⟨(covered target member).1, (covered target member).2.1⟩).imp_left ?_
    rintro ⟨report', w'', repeated, replays⟩
    refine ⟨report', w'', repeated, replays, fun key hit => ?_⟩
    have served := hit
    rw [replays.hits] at served
    obtain ⟨target, member, stands⟩ := List.mem_flatMap.1 served
    obtain ⟨info, found⟩ := OrderedMap.contains_iff.1 ((covered target member).2.2 key stands)
    refine ⟨info, ?_, found⟩
    rw [replays.found key served]
    exact current key info found

end Cache

def Event.produced? : Event → Option String
  | .produced target _ _ => some target
  | _ => none

theorem Event.produces_iff {e : Event} {target : String} :
    e.produces target = true ↔ e.produced? = some target := by
  cases e <;> simp [produces, produced?]

/-- The targets are resolved once, and then some of them are dropped. -/
def Usage.dropped (targets forgotten : List String) : Usage :=
  .resolve default targets (fun _ => .done false) (fun _ => .done false) (.done false)
    fun _ => .flushFor forgotten (.done true)

/-- One member of an expansion was dropped. The first call runs the tool for it, the second one does
not, although it has a tool that knows nothing. -/
theorem Cache.resolveWithReport_again_sample :
    let tool := Tool.listing [("//a:*", ["//a:x", "//a"]), ("//a:x", ["//a", "//a:x"])]
    let w := (Usage.dropped ["//a:*"] ["//a:x"]).ending tool
    let targets := [" //a", "@//a:*", "//a:x"]
    ∃ report w' report' w'', resolveWithReport tool .silent default targets w = .ok report w' ∧
      w'.invocations = "//a:x" :: w.invocations ∧
      resolveWithReport (Tool.listing []) .silent default targets w' = .ok report' w'' ∧
      report'.hits = ["//a:a", "//a:x", "//a:a", "//a:x"] ∧
      report'.infos.keys = ["//a:a", "//a:x"] ∧ w''.invocations = w'.invocations ∧
      ∀ key ∈ report'.hits, ∃ info, report'.infos.get? key = some info ∧
        report.infos.get? key = some info := by
  intro tool w targets
  let after := stateAfter (resolveWithReport tool .silent default targets w)
  obtain ⟨report, w', returned⟩ := eq_ok_of_answer?
    (r := resolveWithReport tool .silent default targets w) (by decide +kernel)
  have same : after = w' := by
    simp only [after, returned, stateAfter]
  have ran : after.invocations = "//a:x" :: w.invocations := by decide +kernel
  have stands : targets.flatMap after.cache.standsFor = ["//a:a", "//a:x", "//a:a", "//a:x"] := by
    decide +kernel
  have labels : ∀ key ∈ after.journal.filterMap Event.produced?,
      (Label.parse key).toOption.any (fun label => !label.isWildcard) = true := by decide +kernel
  have calm : ∀ e ∈ after.journal, e.fallsBack = false := by decide +kernel
  have grown : w.journal <:+ after.journal :=
    resolveWithReport_keep (J := fun v => w.journal <:+ v.journal)
      (fun _ _ effect start => start.trans effect.suffix) (Monitor.silent_keeps _) targets w
      (List.suffix_refl _)
  rw [same] at ran stands labels calm grown
  obtain ⟨said, whole⟩ := grown
  obtain ⟨_, again⟩ := resolveWithReport_again (Usage.ending_reachable tool _)
    Monitor.silent_onlooks returned
    (fun e member key produces => Label.exists_single
      (labels key (List.mem_filterMap.2 ⟨e, member, Event.produces_iff.1 produces⟩)))
    ⟨said, whole.symm, fun e member => calm e (whole ▸ List.mem_append_left _ member)⟩
  rcases again (Tool.listing []) .silent default Monitor.silent_patient.toPassive with
    ⟨report', w'', repeated, replays, records⟩ | ⟨_, _, _, _, _, _, u, v, canceled⟩
  · rw [stands] at replays
    refine ⟨report, w', report', w'', returned, ran, repeated, replays.hits, ?_,
      replays.invocations, records⟩
    rw [replays.order]
    decide
  · cases canceled

end WorkspaceImport
