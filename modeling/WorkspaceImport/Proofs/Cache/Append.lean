import WorkspaceImport.Proofs.Cache.Passive
/-!
Two calls, one after the other, and the one call for the targets of both. The joint call carries the
report of the first part through the second, and reads it in two places; still it runs the tool as
the two calls do, and leaves what they leave.
-/
namespace WorkspaceImport

/-- The second of two calls beside the joint one, which has the report of the first already. -/
structure Call.Beside {σ : Type} (first : Report) (alone joint : Call σ) : Prop where
  settled : joint.Settled
  alike : joint.world.Alike alone.world
  infos : joint.report.infos = first.infos.update alone.report.infos
  hits : joint.report.hits = first.hits ++ alone.report.hits
  computed : joint.report.computed = first.computed ++ alone.report.computed

namespace Call.Beside

variable {σ : Type} {tool : Tool} {origin : Origin} {first : Report} {alone joint : Call σ}
  {target : String} {info : PackageInfo}

theorem contains (beside : Beside first alone joint)
    (found : alone.report.infos.contains target = true) :
    joint.report.infos.contains target = true := by
  rw [beside.infos, OrderedMap.contains_update, found, Bool.true_or]

theorem watched (beside : Beside first alone joint) {v w : World σ} (ours : v.Alike alone.world)
    (theirs : w.Alike joint.world) :
    Beside first { alone with world := v } { joint with world := w } where
  settled := beside.settled.change (by rw [theirs.cache]; exact beside.settled.sound)
    (by rw [theirs.cache])
  alike := theirs.trans (beside.alike.trans ours.symm)
  infos := beside.infos
  hits := beside.hits
  computed := beside.computed

theorem hit (beside : Beside first alone joint)
    (cached : joint.world.cache.current.get? target = some info) :
    Beside first (alone.hit origin target info) (joint.hit origin target info) where
  settled := beside.settled.hit cached
  alike := beside.alike.hit target
  infos := by rw [Call.hit, Call.hit, Report.addHit, Report.addHit, beside.infos,
    OrderedMap.update_insert]
  hits := by rw [Call.hit, Call.hit, Report.addHit, Report.addHit, beside.hits, List.append_assoc]
  computed := beside.computed

theorem learn (beside : Beside first alone joint) (target : String) (infos : List PackageInfo) :
    Beside first (alone.learn tool origin target infos) (joint.learn tool origin target infos) where
  settled := beside.settled.learn target infos
  alike := beside.alike.learn target infos
  infos := by rw [Call.learn, Call.learn, Report.merge, Report.merge, beside.infos,
    OrderedMap.update_update]
  hits := beside.hits
  computed := beside.computed

theorem addComputed (beside : Beside first alone joint) (targets : List String) :
    Beside first (alone.addComputed targets) (joint.addComputed targets) where
  settled := ⟨beside.settled.sound, beside.settled.found, beside.settled.missing⟩
  alike := beside.alike
  infos := beside.infos
  hits := beside.hits
  computed := by rw [Call.addComputed, Call.addComputed, Report.addComputed, Report.addComputed,
    beside.computed, List.append_assoc]

theorem remember (beside : Beside first alone joint) (wildcard : String) (targets : List String) :
    Beside first (alone.remember wildcard targets) (joint.remember wildcard targets) where
  settled := beside.settled.change ⟨beside.settled.sound.known, beside.settled.sound.own⟩ rfl
  alike := beside.alike.remember wildcard targets
  infos := beside.infos
  hits := beside.hits
  computed := beside.computed

theorem degrade (beside : Beside first alone joint)
    (known : joint.world.cache.lastGood.get? target = some info) :
    Beside first (alone.degrade origin target info) (joint.degrade origin target info) where
  settled := beside.settled.degrade known
  alike := ⟨beside.alike.cache, beside.alike.invocations⟩
  infos := by rw [Call.degrade, Call.degrade, Report.addDegraded, Report.addDegraded, beside.infos,
    OrderedMap.update_insert]
  hits := beside.hits
  computed := beside.computed

theorem miss (beside : Beside first alone joint)
    (unknown : joint.world.cache.lastGood.get? target = none) :
    Beside first (alone.miss origin target) (joint.miss origin target) where
  settled := beside.settled.miss unknown
  alike := ⟨beside.alike.cache, beside.alike.invocations⟩
  infos := beside.infos
  hits := beside.hits
  computed := beside.computed

theorem degradeAll (beside : Beside first alone joint) (target package : String) :
    Beside first
      (alone.degradeAll origin target (alone.world.cache.staleOf package))
      (joint.degradeAll origin target (joint.world.cache.staleOf package)) where
  settled := beside.settled.degradeAll target package
  alike := (World.Alike.tell _ _).trans (beside.alike.trans (World.Alike.tell _ _).symm)
  infos := by
    simp only [Call.degradeAll, Report.foldl_addDegraded, beside.alike.cache, beside.infos,
      OrderedMap.update_update]
  hits := by
    simp only [Call.degradeAll, Report.foldl_addDegraded, beside.hits]
  computed := by
    simp only [Call.degradeAll, Report.foldl_addDegraded, beside.computed]

/-- The joint call does not fall back for a target that the first part found. The record that the
second call falls back to is the same one, and has its place already. -/
theorem degrade_alone (beside : Beside first alone joint)
    (known : alone.world.cache.lastGood.get? target = some info)
    (found : joint.report.infos.contains target = true) :
    Beside first (alone.degrade origin target info) joint where
  settled := beside.settled
  alike := ⟨beside.alike.cache, beside.alike.invocations⟩
  infos := by
    obtain ⟨held, present⟩ := OrderedMap.contains_iff.1 found
    have last := beside.settled.found target held present
    rw [beside.alike.cache, known] at last
    rw [← Option.some.inj last] at present
    rw [Call.degrade, Report.addDegraded, OrderedMap.update_insert, ← beside.infos,
      OrderedMap.insert_eq_self present]
  hits := beside.hits
  computed := beside.computed

theorem fallBack (beside : Beside first alone joint) (target : String) :
    Beside first (alone.fallBack origin target) (joint.fallBack origin target) := by
  rw [Call.fallBack, Call.fallBack, ← beside.alike.cache]
  cases known : joint.world.cache.lastGood.get? target with
  | some info => exact beside.degrade known
  | none => exact beside.miss known

theorem fallBackPackage (beside : Beside first alone joint) {label : Label}
    (read : Label.parse target = .ok label) :
    Beside first (alone.fallBackPackage origin target label.package)
      (joint.fallBackPackage origin target label.package) := by
  simp only [Call.fallBackPackage]
  rw [← beside.alike.cache]
  split
  next none =>
    exact beside.miss (Cache.get?_of_staleOf_isEmpty beside.settled.sound read none)
  next =>
    have both : Beside first
        (alone.degradeAll origin target (alone.world.cache.staleOf label.package))
        (joint.degradeAll origin target (joint.world.cache.staleOf label.package)) :=
      beside.degradeAll target label.package
    rw [← beside.alike.cache] at both
    exact both

theorem answerLiteral (beside : Beside first alone joint) (target : String)
    (infos : List PackageInfo) :
    Beside first (alone.answerLiteral tool origin target infos)
      (joint.answerLiteral tool origin target infos) := by
  have learned : Beside first (alone.learn tool origin target infos)
      (joint.learn tool origin target infos) := beside.learn target infos
  simp only [Call.answerLiteral]
  by_cases brought : (Records.canonical infos).contains target = true
  · rw [if_pos brought, if_pos brought]
    exact learned.addComputed [target]
  · rw [if_neg brought, if_neg brought]
    by_cases ours : (alone.learn tool origin target infos).report.infos.contains target = true
    · rw [if_pos ours, if_pos (learned.contains ours)]
      exact learned
    · rw [if_neg ours]
      by_cases theirs : (joint.learn tool origin target infos).report.infos.contains target = true
      · rw [if_pos theirs]
        obtain ⟨info, present⟩ := OrderedMap.contains_iff.1 theirs
        have known := learned.settled.found target info present
        rw [learned.alike.cache] at known
        rw [Call.fallBack, known]
        exact learned.degrade_alone known theirs
      · rw [if_neg theirs]
        exact learned.fallBack target

theorem answerWildcard (beside : Beside first alone joint) {label : Label}
    (read : Label.parse target = .ok label) (infos : List PackageInfo) :
    Beside first (alone.answerWildcard tool origin target label.package infos)
      (joint.answerWildcard tool origin target label.package infos) := by
  have learned : Beside first (alone.learn tool origin target infos)
      (joint.learn tool origin target infos) := beside.learn target infos
  simp only [Call.answerWildcard]
  split
  next => exact learned.fallBackPackage read
  next => exact (learned.remember target _).addComputed _

end Call.Beside

/-- Where a step succeeds on its own, it succeeds in the joint call, and they stay side by side. -/
def Step.StaysBeside {σ : Type} (first : Report) (s : Step σ Unit) : Prop :=
  ∀ alone joint alone', Call.Beside first alone joint → s alone = .ok () alone' →
    ∃ joint', s joint = .ok () joint' ∧ Call.Beside first alone' joint'

namespace Resolve

variable {σ : Type} {tool : Tool} {monitor : Monitor σ} {origin : Origin} {first : Report}

theorem reportWork_staysBeside (passive : monitor.Passive) :
    Step.StaysBeside first (reportWork monitor) := by
  intro alone joint alone' beside returned
  obtain ⟨v, ours, alike⟩ := passive.reportWork alone
  obtain ⟨w, theirs, alike'⟩ := passive.reportWork joint
  rw [ours] at returned
  cases returned
  exact ⟨_, theirs, beside.watched alike alike'⟩

theorem literal_staysBeside (passive : monitor.Passive) (target : String) :
    Step.StaysBeside first (literal tool monitor origin target) := by
  intro alone joint alone' beside returned
  have same : joint.world.cache.current = alone.world.cache.current := by
    rw [beside.alike.cache]
  cases cached : alone.world.cache.current.get? target with
  | some info =>
    have cached' : joint.world.cache.current.get? target = some info := by
      rw [same, cached]
    rw [literal_hit tool monitor origin cached] at returned
    rw [literal_hit tool monitor origin cached']
    exact reportWork_staysBeside passive _ _ _ (beside.hit cached') returned
  | none =>
    have absent : joint.world.cache.current.get? target = none := by
      rw [same, cached]
    cases said : (tool alone.world.invocations target).outcome with
    | error f =>
      rw [literal_refused tool monitor origin cached said] at returned
      cases returned
    | ok records =>
      rw [literal_answered tool monitor origin cached said] at returned
      rw [← beside.alike.invocations] at said
      rw [literal_answered tool monitor origin absent said]
      exact reportWork_staysBeside passive _ _ _ (beside.answerLiteral target records.values)
        returned

theorem forM_staysBeside {α : Type} {f : α → Step σ PUnit}
    (each : ∀ x, Step.StaysBeside first (f x)) (xs : List α) :
    Step.StaysBeside first (xs.forM f) := by
  induction xs with
  | nil =>
    intro alone joint alone' beside returned
    cases returned
    exact ⟨joint, rfl, beside⟩
  | cons x rest ih =>
    intro alone joint alone' beside returned
    obtain ⟨middle, run, later⟩ := Step.forM_cons_ok.1 returned
    obtain ⟨middle', run', beside'⟩ := each x _ _ _ beside run
    obtain ⟨joint', later', beside''⟩ := ih _ _ _ beside' later
    exact ⟨joint', Step.forM_cons_ok.2 ⟨middle', run', later'⟩, beside''⟩

theorem wildcard_staysBeside (passive : monitor.Passive) (depth : Nat) (visiting : List String)
    {target : String} {label : Label} (read : Label.parse target = .ok label) :
    Step.StaysBeside first (wildcard tool monitor origin depth visiting target) := by
  induction depth generalizing visiting target label with
  | zero =>
    intro alone joint alone' beside returned
    cases returned
  | succ depth ih =>
    intro alone joint alone' beside returned
    cases fresh : visiting.contains target with
    | true =>
      rw [wildcard_cycle tool monitor origin depth fresh] at returned
      cases returned
    | false =>
      have same : joint.world.cache.wildcards = alone.world.cache.wildcards := by
        rw [beside.alike.cache]
      cases known : alone.world.cache.wildcards.get? target with
      | some expansion =>
        rw [wildcard_remembered tool monitor origin depth fresh known] at returned
        rw [← same] at known
        rw [wildcard_remembered tool monitor origin depth fresh known]
        refine forM_staysBeside ?_ expansion _ _ _ beside returned
        -- a member of the expansion is a wildcard one level deeper, or stands for itself
        intro sub
        unfold member
        cases inside : Label.parse sub with
        | error fault =>
          intro alone joint alone' beside returned
          cases returned
        | ok label =>
          simp only
          split
          next => exact ih (target :: visiting) inside
          next => exact literal_staysBeside passive sub
      | none =>
        cases said : (tool alone.world.invocations target).outcome with
        | error f =>
          rw [wildcard_refused tool monitor origin depth fresh known said] at returned
          cases returned
        | ok records =>
          rw [wildcard_answered tool monitor origin depth fresh read known said] at returned
          rw [← same] at known
          rw [← beside.alike.invocations] at said
          rw [wildcard_answered tool monitor origin depth fresh read known said]
          exact reportWork_staysBeside passive _ _ _ (beside.answerWildcard read records.values)
            returned

theorem request_staysBeside (patient : monitor.Patient) (target : String) :
    Step.StaysBeside first (request tool monitor origin target) := by
  intro alone joint alone' beside returned
  obtain ⟨canceled, v, ours, alike⟩ := patient.isCanceled alone.world
  obtain ⟨canceled', w, theirs, alike'⟩ := patient.isCanceled joint.world
  have going := patient.goesOn _ _ _ ours
  have going' := patient.goesOn _ _ _ theirs
  subst going going'
  have beside' := beside.watched alike alike'
  rw [request_eq, ours] at returned
  rw [request_eq, theirs]
  cases read : Label.parse target with
  | error fault =>
    simp only [read] at returned
    cases returned
  | ok label =>
    simp only [read] at returned ⊢
    split at returned
    next wild =>
      have again := Label.parse_canonical read
      rw [if_pos wild]
      exact wildcard_staysBeside patient.toPassive nestingLimit [] again _ _ _ beside' returned
    next single =>
      rw [if_neg single]
      exact literal_staysBeside patient.toPassive _ _ _ _ beside' returned

theorem requests_staysBeside (patient : monitor.Patient) (targets : List String) :
    Step.StaysBeside first (requests tool monitor origin targets) :=
  forM_staysBeside (request_staysBeside patient) targets

end Resolve

/-- Two calls in a row, watched by somebody who never cancels, are one call for the targets of both:
it runs the tool for the same targets in the same order, leaves the same cache, and its records are
those of the first call overwritten with those of the second. -/
theorem Cache.resolveWithReport_append {σ : Type} {tool : Tool} {monitor : Monitor σ}
    {origin : Origin} {targets targets' : List String} {w v w' : World σ} {report report' : Report}
    (reached : w.snapshot.Reachable tool) (patient : monitor.Patient)
    (first : resolveWithReport tool monitor origin targets w = .ok report v)
    (second : resolveWithReport tool monitor origin targets' v = .ok report' w') :
    ∃ joint u, resolveWithReport tool monitor origin (targets ++ targets') w = .ok joint u ∧
      u.invocations = w'.invocations ∧ u.cache = w'.cache ∧
      joint.infos = report.infos.update report'.infos ∧
      joint.hits = report.hits ++ report'.hits ∧
      joint.computed = report.computed ++ report'.computed := by
  have passive := patient.toPassive
  obtain ⟨u₁, c₁, v₁, started₁, run₁, ended₁, rfl, rfl⟩ := resolveWithReport_ok first
  obtain ⟨u₂, c₂, v₂, started₂, run₂, ended₂, rfl, rfl⟩ := resolveWithReport_ok second
  -- the second call begins where the first half of the joint call has ended
  have between : u₂.Alike c₁.world := (passive.alike_of_subTask started₂).trans
    ((World.Alike.tell _ _).trans (passive.alike_of_worked ended₁))
  have start : Call.Beside c₁.report ⟨.empty, u₂⟩ c₁ := {
    settled := requests_settled reached.sound passive.spares started₁ run₁
    alike := between.symm
    infos := rfl
    hits := (List.append_nil _).symm
    computed := (List.append_nil _).symm }
  obtain ⟨c₃, run₃, beside⟩ := Resolve.requests_staysBeside patient targets' _ _ _ start run₂
  have whole : Resolve.requests tool monitor origin (targets ++ targets') ⟨.empty, u₁⟩ =
      .ok () c₃ := by
    rw [Resolve.requests, Step.forM_append_apply]
    rw [Resolve.requests] at run₁ run₃
    simp only [run₁, run₃]
  obtain ⟨u, returned, ended⟩ := passive.resolveWithReport started₁ whole
  have last : u.Alike (v₂.tell (Resolve.warnings origin c₂.report)) := ended.trans
    (beside.alike.trans ((World.Alike.tell _ _).trans (passive.alike_of_worked ended₂)).symm)
  exact ⟨c₃.report, u, returned, last.invocations, last.cache, beside.infos, beside.hits,
    beside.computed⟩

theorem Cache.resolveWithReport_append_sample :
    ∃ report v report' w' joint u,
      resolveWithReport Tool.sample Monitor.silent default ["//a", "//b:c"]
        (Usage.sample.ending Tool.sample) = .ok report v ∧
      resolveWithReport Tool.sample Monitor.silent default ["//a:all"] v = .ok report' w' ∧
      resolveWithReport Tool.sample Monitor.silent default ["//a", "//b:c", "//a:all"]
        (Usage.sample.ending Tool.sample) = .ok joint u ∧
      u.cache = w'.cache ∧ joint.infos = report.infos.update report'.infos := by
  obtain ⟨report, v, first⟩ := eq_ok_of_answer? (r := resolveWithReport Tool.sample Monitor.silent
    default ["//a", "//b:c"] (Usage.sample.ending Tool.sample)) (by decide +kernel)
  have again : (answer? (resolveWithReport Tool.sample Monitor.silent default ["//a:all"] v)).isSome =
      true := by
    have reached : v = stateAfter (resolveWithReport Tool.sample Monitor.silent default
        ["//a", "//b:c"] (Usage.sample.ending Tool.sample)) := by rw [first]; rfl
    rw [reached]
    decide +kernel
  obtain ⟨report', w', second⟩ := eq_ok_of_answer? again
  obtain ⟨joint, u, returned, _, cache, infos, _, _⟩ := resolveWithReport_append
    (Usage.ending_reachable Tool.sample Usage.sample) Monitor.silent_patient first second
  exact ⟨report, v, report', w', joint, u, first, second, returned, cache, infos⟩

end WorkspaceImport
