import WorkspaceImport.Proofs.Cache.Settled
/-!
What a report says. Whoever watches a resolution may flush the cache under it; still every record of
the report is the last one known of its target when the call returns, every target that was asked
for is found or missing, and it is missing only if nothing was ever known of it.
-/
namespace WorkspaceImport

open Relation (ReflTransGen)

/-- What somebody may do who only reads and flushes, beside keeping records of its own. -/
inductive Flushing {σ : Type} : World σ → World σ → Prop where
  | kept (w : World σ) (client : σ) : Flushing w { w with client := client }
  | told (w : World σ) (note : Note) : Flushing w (w.log (.told note))
  | flushed (w : World σ) : Flushing w w.flush
  | dropped (w : World σ) (target : String) : Flushing w (w.drop target)

/-- Somebody who only reads and flushes, whatever it was told; its functions may fail. -/
structure Monitor.OnlyFlushes {σ : Type} (monitor : Monitor σ) : Prop where
  subTask : ∀ text w, ReflTransGen Flushing w (stateAfter (monitor.subTask text w))
  worked : ∀ units w, ReflTransGen Flushing w (stateAfter (monitor.worked units w))
  isCanceled : ∀ w, ReflTransGen Flushing w (stateAfter (monitor.isCanceled w))

namespace Flushing

variable {σ : Type} {tool : Tool} {v w : World σ}

theorem keep {J : World σ → Prop} (effect : ∀ v v', Effect tool v v' → J v → J v')
    (client : ∀ v own, J v → J { v with client := own }) (run : ReflTransGen Flushing v w)
    (start : J v) : J w := by
  induction run with
  | refl => exact start
  | tail _ step ih =>
    cases step with
    | kept own => exact client _ own ih
    | told note => exact effect _ _ (.idle rfl) ih
    | flushed => exact effect _ _ (.flushed _) ih
    | dropped target => exact effect _ _ (.dropped _ target) ih

theorem sound (run : ReflTransGen Flushing v w) (sound : v.cache.Sound) : w.cache.Sound := by
  induction run with
  | refl => exact sound
  | tail _ step ih =>
    cases step with
    | kept _ => exact ih
    | told _ => exact ih
    | flushed => exact ih.flush
    | dropped target => exact ih.drop target

theorem lastGood_eq (run : ReflTransGen Flushing v w) : w.cache.lastGood = v.cache.lastGood := by
  induction run with
  | refl => rfl
  | tail _ step ih =>
    rw [← ih]
    cases step <;> rfl

end Flushing

theorem Monitor.OnlyFlushes.keeps {σ : Type} {tool : Tool} {monitor : Monitor σ}
    {J : World σ → Prop} (flushes : monitor.OnlyFlushes)
    (effect : ∀ v v', Effect tool v v' → J v → J v')
    (client : ∀ v own, J v → J { v with client := own }) : monitor.Keeps J where
  subTask text w := Flushing.keep effect client (flushes.subTask text w)
  worked units w := Flushing.keep effect client (flushes.worked units w)
  isCanceled w := Flushing.keep effect client (flushes.isCanceled w)

def Report.Answers (r : Report) (target : String) : Prop :=
  r.infos.contains target = true ∨ target ∈ r.missing

namespace Report

variable {target : String} {info : PackageInfo}

theorem Answers.merge {r : Report} (answers : r.Answers target) (found : Records) :
    (r.merge found).Answers target := by
  simp only [Answers, Report.merge, OrderedMap.contains_update, List.mem_filter, Bool.or_eq_true]
  cases new : found.contains target with
  | true => exact .inl (.inl rfl)
  | false =>
    rcases answers with present | absent
    · exact .inl (.inr present)
    · exact .inr ⟨absent, rfl⟩

end Report

section Moves

variable {σ : Type} {tool : Tool} {monitor : Monitor σ} {origin : Origin} {c d : Call σ}

theorem Monitor.OnlyFlushes.spares (flushes : monitor.OnlyFlushes) : monitor.SparesKnown := by
  intro known
  have flushing {v w : World σ} (run : ReflTransGen Flushing v w)
      (start : v.cache.Sound ∧ v.cache.lastGood = known) :
      w.cache.Sound ∧ w.cache.lastGood = known :=
    ⟨Flushing.sound run start.1, (Flushing.lastGood_eq run).trans start.2⟩
  exact {
    subTask := fun text w => flushing (flushes.subTask text w)
    worked := fun units w => flushing (flushes.worked units w)
    isCanceled := fun w => flushing (flushes.isCanceled w) }

theorem Move.contains {target : String} (move : Move tool monitor origin c d)
    (present : c.report.infos.contains target = true) :
    d.report.infos.contains target = true := by
  cases move with
  | hit _ => simp only [Call.hit, Report.addHit, OrderedMap.contains_insert, present, Bool.or_true]
  | refused _ => exact present
  | learned _ =>
    simp only [Call.learn, Report.merge, OrderedMap.contains_update, present, Bool.or_true]
  | computed _ => exact present
  | remembered _ _ _ => exact present
  | degraded _ =>
    simp only [Call.degrade, Report.addDegraded, OrderedMap.contains_insert, present, Bool.or_true]
  | missed _ => exact present
  | degradedAll _ =>
    simp only [Call.degradeAll, Report.foldl_addDegraded, OrderedMap.contains_update, present,
      Bool.or_true]
  | missedAll _ _ => exact present
  | worked => exact present
  | asked => exact present

theorem Move.answers {target : String} (move : Move tool monitor origin c d)
    (answers : c.report.Answers target) : d.report.Answers target := by
  rcases answers with present | absent
  · exact .inl (move.contains present)
  · cases move with
    | hit _ => exact .inr absent
    | refused _ => exact .inr absent
    | learned _ => exact Report.Answers.merge (.inr absent) _
    | computed _ => exact .inr absent
    | remembered _ _ _ => exact .inr absent
    | degraded _ => exact .inr absent
    | missed _ => exact .inr (List.mem_append_left _ absent)
    | degradedAll _ =>
      simp only [Call.degradeAll, Report.Answers, Report.foldl_addDegraded]
      exact .inr absent
    | missedAll _ _ => exact .inr (List.mem_append_left _ absent)
    | worked => exact .inr absent
    | asked => exact .inr absent

end Moves

namespace Resolve

variable {σ : Type} {tool : Tool} {monitor : Monitor σ} {origin : Origin} {c d : Call σ}

theorem report_reportWork (returned : reportWork monitor c = .ok () d) : d.report = c.report := by
  rw [reportWork_apply] at returned
  split at returned
  next w run =>
    cases returned
    rfl
  next => cases returned

theorem fallBack_answers (c : Call σ) (target : String) :
    (c.fallBack origin target).report.Answers target := by
  unfold Call.fallBack
  split
  next info known =>
    left
    simp [Call.degrade, Report.addDegraded]
  next => exact .inr (List.mem_append_right _ (List.mem_singleton.2 rfl))

theorem answerLiteral_answers (c : Call σ) (target : String) (infos : List PackageInfo) :
    (c.answerLiteral tool origin target infos).report.Answers target := by
  simp only [Call.answerLiteral]
  split
  next found =>
    have member := OrderedMap.contains_iff_mem_keys.1 found
    exact .inl (contains_learn_infos tool origin c target member)
  next =>
    split
    next known => exact .inl known
    next => exact fallBack_answers _ target

theorem literal_answers {target : String}
    (returned : literal tool monitor origin target c = .ok () d) : d.report.Answers target := by
  cases cached : c.world.cache.current.get? target with
  | some info =>
    rw [literal_hit tool monitor origin cached] at returned
    rw [report_reportWork returned]
    left
    simp [Call.hit, Report.addHit]
  | none =>
    cases said : (tool c.world.invocations target).outcome with
    | error f =>
      rw [literal_refused tool monitor origin cached said] at returned
      cases returned
    | ok records =>
      rw [literal_answered tool monitor origin cached said] at returned
      rw [report_reportWork returned]
      exact answerLiteral_answers c target records.values

theorem request_answers {target : String} {label : Label} (read : Label.parse target = .ok label)
    (single : label.isWildcard = false)
    (returned : request tool monitor origin target c = .ok () d) :
    d.report.Answers (canonicalLabel target) := by
  have spelled : canonicalLabel target = label.canonical.text := by
    rw [canonicalLabel, read]
  rw [request_eq] at returned
  split at returned
  next => cases returned
  next => cases returned
  next =>
    simp only [read, single, Bool.false_eq_true, if_false] at returned
    rw [spelled]
    exact literal_answers returned

theorem requests_answers {targets : List String}
    (returned : requests tool monitor origin targets c = .ok () d) :
    ∀ target ∈ targets, ∀ label, Label.parse target = .ok label → label.isWildcard = false →
      d.report.Answers (canonicalLabel target) := by
  apply Call.Chain.forM_all (R := Move tool monitor origin) (I := fun _ => True)
    (P := fun target d => ∀ label, Label.parse target = .ok label →
      label.isWildcard = false → d.report.Answers (canonicalLabel target))
    (fun target c => (request_turns tool monitor origin target c).moves) (fun _ _ _ held => held) _ _
    trivial returned
  · intro target c d move answers label read single
    exact move.answers (answers label read single)
  · intro target _ c d _ run label read single
    exact request_answers read single run

end Resolve

theorem Cache.resolveWithReport_recalls {σ : Type} {tool : Tool} {monitor : Monitor σ}
    {origin : Origin} {targets : List String} {w w' : World σ} {report : Report}
    (recalls : w.snapshot.Recalls tool) (flushes : monitor.OnlyFlushes)
    (returned : resolveWithReport tool monitor origin targets w = .ok report w') :
    w'.snapshot.Recalls tool := by
  have watched : monitor.Keeps fun w => w.snapshot.Recalls tool :=
    flushes.keeps (fun _ _ effect => effect.recalls) fun _ _ recalls => recalls
  have kept : Action.Keeps (fun w => w.snapshot.Recalls tool)
      (resolveWithReport tool monitor origin targets) :=
    resolveWithReport_keep (fun _ _ effect => effect.recalls) watched targets
  exact kept.ok returned recalls

/-- A call from any session that can be reached, watched by somebody who may flush, answers every
target with the last record that was ever loaded for it, in this call or before; what is missing was
never loaded. All its records, asked for or not, are the last ones known at its return. -/
theorem Cache.resolveWithReport_eq_history {σ : Type} {tool : Tool} {monitor : Monitor σ}
    {origin : Origin} {targets : List String} {w w' : World σ} {report : Report}
    (reached : w.snapshot.Reachable tool) (flushes : monitor.OnlyFlushes)
    (returned : resolveWithReport tool monitor origin targets w = .ok report w') :
    (∀ target ∈ targets, ∀ label, Label.parse target = .ok label → label.isWildcard = false →
      report.infos.get? (canonicalLabel target) = (History.recordsOf (canonicalLabel target)
        (History.ofJournal tool w'.journal)).head? ∧
      (report.infos.contains (canonicalLabel target) = false →
        canonicalLabel target ∈ report.missing)) ∧
    (∀ target info, report.infos.get? target = some info →
      w'.cache.lastGood.get? target = some info) ∧
    ∀ target ∈ report.missing, report.infos.contains target = false := by
  have recalls := resolveWithReport_recalls reached.recalls flushes returned
  have settled := resolveWithReport_settled reached.sound flushes.spares returned
  have absent : ∀ target ∈ report.missing, report.infos.contains target = false := by
    intro target member
    rw [OrderedMap.contains_eq_false_iff]
    cases present : report.infos.get? target with
    | none => rfl
    | some info =>
      have known := settled.found target info present
      rw [settled.missing target member] at known
      cases known
  refine ⟨?_, settled.found, absent⟩
  intro target member label read single
  -- A target that was asked for has a record in the report or else counts as missing.
  have answers : report.Answers (canonicalLabel target) := by
    obtain ⟨v, c, u, _, run, _, rfl, _⟩ := resolveWithReport_ok returned
    exact Resolve.requests_answers run target member label read single
  have last : w'.cache.lastGood = (History.ofJournal tool w'.journal).lastGood := recalls.lastGood
  rw [← History.get?_lastGood, ← last]
  rcases answers with present | missing
  · obtain ⟨info, found⟩ := OrderedMap.contains_iff.1 present
    constructor
    · rw [found, settled.found _ info found]
    · intro unknown
      rw [present] at unknown
      cases unknown
  · constructor
    · rw [settled.missing _ missing]
      exact OrderedMap.contains_eq_false_iff.1 (absent _ missing)
    · exact fun _ => missing

/-- Somebody who flushes the cache whenever there is progress. -/
def Monitor.flushing {σ : Type} : Monitor σ where
  subTask _ := pure ()
  worked _ := Cache.flushAll
  isCanceled := pure false

theorem Monitor.flushing_onlyFlushes {σ : Type} : (flushing : Monitor σ).OnlyFlushes where
  subTask _ _ := .refl
  worked _ w := .single (.flushed w)
  isCanceled _ := .refl

theorem Cache.resolveWithReport_eq_history_sample :
    ∃ report w', resolveWithReport Tool.sample Monitor.flushing default ["//b:c", "//a:a"]
        (Usage.sample.ending Tool.sample) = .ok report w' ∧
      report.infos.get? "//a:a" = (History.recordsOf "//a:a"
        (History.ofJournal Tool.sample w'.journal)).head? ∧ "//b:c" ∈ report.missing := by
  obtain ⟨report, w', returned⟩ := eq_ok_of_answer? (r := resolveWithReport Tool.sample
    Monitor.flushing default ["//b:c", "//a:a"] (Usage.sample.ending Tool.sample))
    (by decide +kernel)
  have law := resolveWithReport_eq_history (Usage.ending_reachable Tool.sample Usage.sample)
    Monitor.flushing_onlyFlushes returned
  have found := law.1 "//a:a" (by decide) ⟨"", "a", some "a"⟩ (by decide +kernel) (by decide +kernel)
  have missing := law.1 "//b:c" (by decide) ⟨"", "b", some "c"⟩ (by decide +kernel)
    (by decide +kernel)
  have spelled : canonicalLabel "//a:a" = "//a:a" ∧ canonicalLabel "//b:c" = "//b:c" := by
    decide +kernel
  rw [spelled.1] at found
  rw [spelled.2] at missing
  have unknown : report.infos.contains "//b:c" = false := by
    have none : (answer? (resolveWithReport Tool.sample Monitor.flushing default ["//b:c", "//a:a"]
        (Usage.sample.ending Tool.sample))).all (fun r => !r.infos.contains "//b:c") = true := by
      decide +kernel
    rw [returned] at none
    simpa [answer?] using none
  exact ⟨report, w', returned, found.1, missing.2 unknown⟩

end WorkspaceImport
