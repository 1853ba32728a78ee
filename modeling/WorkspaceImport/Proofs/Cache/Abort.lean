import WorkspaceImport.Proofs.Cache.Passive
/-!
Resolutions that fail. A call stops at one of its targets; if it does so at once, then it leaves what
the call for the targets before it leaves, and the failure of the tool carries the records which that
call returns. Only a wildcard of which the expansion is remembered can fail on its way.
-/
namespace WorkspaceImport

/-- A call for these targets and more has gone through them, and stands before the next one. -/
def Call.Reaches {σ : Type} (tool : Tool) (monitor : Monitor σ) (origin : Origin)
    (targets : List String) (w : World σ) (c : Call σ) : Prop :=
  ∃ v, monitor.subTask Cache.resolveTask w = .ok () v ∧
    Resolve.requests tool monitor origin targets ⟨.empty, v⟩ = .ok () c

namespace Resolve

variable {σ : Type} {tool : Tool} {monitor : Monitor σ} {origin : Origin} {c d : Call σ}

/-- Where a target can stop a call only at once: the call is canceled before it, it is no label, or
the tool has to be run for it. -/
inductive StopsAt (monitor : Monitor σ) (target : String) (c : Call σ) : Prop where
  | canceled {w : World σ} (canceled : monitor.isCanceled c.world = .ok true w)
  | rejected {fault : LabelFault} (rejected : Label.parse target = .error fault)
  | single {label : Label} (read : Label.parse target = .ok label)
      (single : label.isWildcard = false)
  | unexpanded {label : Label} (read : Label.parse target = .ok label)
      (wild : label.isWildcard = true)
      (unknown : c.world.cache.wildcards.get? label.canonical.text = none)

def Untouched (c d : Call σ) : Prop :=
  d.report = c.report ∧ d.world.cache = c.world.cache

theorem ask_untouched (c : Call σ) (target : String) : Untouched c (c.ask tool origin target) :=
  ⟨rfl, c.world.ask_cache tool origin target⟩

theorem literal_failed (passive : monitor.Passive) {target : String} {f : Failure}
    (failed : literal tool monitor origin target c = .error f d) : Untouched c d := by
  cases cached : c.world.cache.current.get? target with
  | some info =>
    obtain ⟨w, returned, _⟩ := passive.reportWork (c.hit origin target info)
    rw [literal_hit tool monitor origin cached, returned] at failed
    cases failed
  | none =>
    cases said : (tool c.world.invocations target).outcome with
    | error f' =>
      rw [literal_refused tool monitor origin cached said] at failed
      cases failed
      exact ask_untouched c target
    | ok records =>
      obtain ⟨w, returned, _⟩ :=
        passive.reportWork (c.answerLiteral tool origin target records.values)
      rw [literal_answered tool monitor origin cached said, returned] at failed
      cases failed

theorem wildcard_failed (passive : monitor.Passive) {depth : Nat} {target : String} {label : Label}
    {f : Failure} (read : Label.parse target = .ok label)
    (unknown : c.world.cache.wildcards.get? target = none)
    (failed : wildcard tool monitor origin (depth + 1) [] target c = .error f d) :
    Untouched c d := by
  have fresh : ([] : List String).contains target = false := rfl
  cases said : (tool c.world.invocations target).outcome with
  | error f' =>
    rw [wildcard_refused tool monitor origin depth fresh unknown said] at failed
    cases failed
    exact ask_untouched c target
  | ok records =>
    obtain ⟨w, returned, _⟩ :=
      passive.reportWork (c.answerWildcard tool origin target label.package records.values)
    rw [wildcard_answered tool monitor origin depth fresh read unknown said, returned] at failed
    cases failed

theorem request_failed (passive : monitor.Passive) {target : String} {f : Failure}
    (stops : StopsAt monitor target c)
    (failed : request tool monitor origin target c = .error f d) : Untouched c d := by
  obtain ⟨canceled, w, answered, alike⟩ := passive.isCanceled c.world
  rw [request_eq, answered] at failed
  cases canceled with
  | true =>
    cases failed
    exact ⟨rfl, alike.cache⟩
  | false =>
    have rest : Untouched { c with world := w } d := by
      cases stops with
      | canceled canceled =>
        rw [canceled] at answered
        cases answered
      | rejected rejected =>
        simp only [rejected] at failed
        cases failed
        exact ⟨rfl, rfl⟩
      | single read single =>
        simp only [read, single, Bool.false_eq_true, if_false] at failed
        exact literal_failed passive failed
      | unexpanded read wild unknown =>
        have again := Label.parse_canonical read
        simp only [read, wild, if_true] at failed
        rw [← alike.cache] at unknown
        exact wildcard_failed passive again unknown failed
    exact ⟨rest.1, rest.2.trans alike.cache⟩

end Resolve

/-- A call that fails stops at one of its targets: the call for the targets before it returns, and the
call that ends with it fails alike. If the target can stop the call only at once, then the cache is
what that shorter call leaves, and a failure of the tool carries the records that it returns. -/
theorem Cache.resolveWithReport_error {σ : Type} {tool : Tool} {monitor : Monitor σ}
    {origin : Origin} {targets : List String} {w w' : World σ} {f : Failure}
    (passive : monitor.Passive)
    (failed : resolveWithReport tool monitor origin targets w = .error f w') :
    ∃ before target after c report v, targets = before ++ target :: after ∧
      Call.Reaches tool monitor origin before w c ∧
      resolveWithReport tool monitor origin before w = .ok report v ∧
      resolveWithReport tool monitor origin (before ++ [target]) w = .error f w' ∧
      (Resolve.StopsAt monitor target c → w'.cache = v.cache ∧
        ∀ fault found, f = .invocation fault found → found = report.infos) := by
  obtain ⟨u, started, _⟩ := passive.subTask resolveTask w
  have shape := resolveWithReport_eq tool monitor origin targets w
  rw [failed, started] at shape
  simp only at shape
  cases run : Resolve.requests tool monitor origin targets ⟨.empty, u⟩ with
  | ok _ c =>
    obtain ⟨v, returned, _⟩ := passive.resolveWithReport started run
    rw [returned] at failed
    cases failed
  | error g d =>
    rw [run] at shape
    cases shape
    obtain ⟨before, target, after, c, split, went, stopped⟩ := Step.forM_error run
    obtain ⟨v, returned, alike⟩ := passive.resolveWithReport started went
    refine ⟨before, target, after, c, c.report, v, split, ⟨u, started, went⟩, returned, ?_, ?_⟩
    -- Up to the target the call is the same, and it fails there without looking at the others.
    · have alone : Resolve.requests tool monitor origin (before ++ [target]) ⟨.empty, u⟩ =
          .error g d := by
        rw [Resolve.requests, Step.forM_append_apply, went]
        simp only [Step.forM_cons_apply, stopped]
      rw [resolveWithReport_eq, started]
      simp only [alone]
    · intro stops
      obtain ⟨sameReport, sameCache⟩ := Resolve.request_failed passive stops stopped
      refine ⟨sameCache.trans alike.cache.symm, ?_⟩
      intro fault found same
      rw [← sameReport]
      cases g with
      | invocation _ _ =>
        cases same
        rfl
      | _ => cases same

theorem Cache.resolveWithReport_error_sample :
    ∃ f w' before report v, resolveWithReport Tool.sample Monitor.silent default
        ["//a:a", "//broken:broken"] (Usage.sample.ending Tool.sample) = .error f w' ∧
      resolveWithReport Tool.sample Monitor.silent default before
        (Usage.sample.ending Tool.sample) = .ok report v ∧ w'.cache = v.cache := by
  obtain ⟨f, w', failed⟩ := eq_error_of_answer? (r := resolveWithReport Tool.sample Monitor.silent
    default ["//a:a", "//broken:broken"] (Usage.sample.ending Tool.sample)) (by decide +kernel)
  obtain ⟨before, target, after, c, report, v, split, _, returned, _, law⟩ :=
    resolveWithReport_error Monitor.silent_patient.toPassive failed
  have member : target ∈ ["//a:a", "//broken:broken"] := by
    rw [split]
    exact List.mem_append_right before List.mem_cons_self
  have stops : Resolve.StopsAt Monitor.silent target c := by
    have good : Label.parse "//a:a" = .ok ⟨"", "a", some "a"⟩ := by decide +kernel
    have bad : Label.parse "//broken:broken" = .ok ⟨"", "broken", some "broken"⟩ := by
      decide +kernel
    rcases List.mem_cons.1 member with first | second
    · rw [first]
      exact .single good (by decide +kernel)
    · rw [List.mem_singleton.1 second]
      exact .single bad (by decide +kernel)
  exact ⟨f, w', before, report, v, failed, returned, (law stops).1⟩

end WorkspaceImport
