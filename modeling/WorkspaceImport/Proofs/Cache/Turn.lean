import WorkspaceImport.Proofs.Cache.Step
import WorkspaceImport.Proofs.Label
import Mathlib.Logic.Relation
/-!
The turns of a resolution. However deep wildcards are nested in the expansions of others, all that
happens is that targets are answered one after the other, each from the cache or by one run of the
tool, and that the one who watches is told of it.
-/
namespace WorkspaceImport

open Relation (ReflTransGen)

abbrev Call.Chain {σ : Type} (R : Call σ → Call σ → Prop) : Call σ → Call σ → Prop :=
  ReflTransGen R

namespace Call.Chain

variable {σ α : Type} {R : Call σ → Call σ → Prop} {c d : Call σ}

theorem of_ok {step : Step σ α} {x : α} (chain : Call.Chain R c (stateAfter (step c)))
    (ran : step c = .ok x d) : Call.Chain R c d := by
  rw [ran] at chain
  exact chain

theorem keep {I : Call σ → Prop} (chain : Call.Chain R c d) (step : ∀ c d, R c d → I c → I d)
    (start : I c) : I d := by
  induction chain with
  | refl => exact start
  | tail _ last ih => exact step _ _ last ih

variable {f : α → Step σ PUnit} (each : ∀ x c, Call.Chain R c (stateAfter (f x c)))
include each

theorem forM (xs : List α) (c : Call σ) : Call.Chain R c (stateAfter (xs.forM f c)) := by
  induction xs generalizing c with
  | nil => exact .refl
  | cons x rest ih =>
    have first := each x c
    rw [Step.forM_cons_apply]
    cases run : f x c with
    | error e d =>
      rw [run] at first
      exact first
    | ok _ d =>
      rw [run] at first
      exact first.trans (ih d)

theorem forM_all {I : Call σ → Prop} {P : α → Call σ → Prop} (inv : ∀ c d, R c d → I c → I d)
    (kept : ∀ x c d, R c d → P x c → P x d) {xs : List α}
    (round : ∀ x ∈ xs, ∀ c d, I c → f x c = .ok () d → P x d) (start : I c)
    (returned : xs.forM f c = .ok () d) : ∀ x ∈ xs, P x d := by
  induction xs generalizing c with
  | nil =>
    intro x member
    cases member
  | cons first rest ih =>
    obtain ⟨b, run, rest_returned⟩ := Step.forM_cons_ok.1 returned
    have before := (each first c).of_ok run
    have after := (forM each rest b).of_ok rest_returned
    intro x member
    rcases List.mem_cons.1 member with rfl | later
    · exact after.keep (kept x) (round x List.mem_cons_self c b start run)
    · exact ih (fun x inside => round x (List.mem_cons_of_mem first inside))
        (before.keep inv start) rest_returned x later

end Call.Chain

/-- One turn of a resolution: one target is answered, or the tool fails on it. The last two are turns
of the one who watches. -/
inductive Turn {σ : Type} (tool : Tool) (monitor : Monitor σ) (origin : Origin) :
    Call σ → Call σ → Prop where
  | hit {c : Call σ} {target : String} {info : PackageInfo}
      (cached : c.world.cache.current.get? target = some info) :
      Turn tool monitor origin c (c.hit origin target info)
  | refused {c : Call σ} {target : String} {f : Failure}
      (refused : (tool c.world.invocations target).outcome = .error f) :
      Turn tool monitor origin c (c.ask tool origin target)
  | literal {c : Call σ} {target : String} {records : Records}
      (absent : c.world.cache.current.get? target = none)
      (answered : (tool c.world.invocations target).outcome = .ok records) :
      Turn tool monitor origin c (c.answerLiteral tool origin target records.values)
  | wildcard {c : Call σ} {target : String} {label : Label} {records : Records}
      (read : Label.parse target = .ok label) (wild : label.isWildcard = true)
      (unknown : c.world.cache.wildcards.get? target = none)
      (answered : (tool c.world.invocations target).outcome = .ok records) :
      Turn tool monitor origin c
        (c.answerWildcard tool origin target label.package records.values)
  | worked (c : Call σ) : Turn tool monitor origin c
      { c with world := stateAfter (monitor.worked c.report.infos.size c.world) }
  | asked (c : Call σ) : Turn tool monitor origin c
      { c with world := stateAfter (monitor.isCanceled c.world) }

abbrev Turns {σ : Type} (tool : Tool) (monitor : Monitor σ) (origin : Origin) :
    Call σ → Call σ → Prop :=
  Call.Chain (Turn tool monitor origin)

namespace Resolve

variable {σ : Type} (tool : Tool) (monitor : Monitor σ) (origin : Origin)

theorem reportWork_turns (c : Call σ) :
    Turns tool monitor origin c (stateAfter (reportWork monitor c)) := by
  have told : Turn tool monitor origin c _ := .worked c
  rw [reportWork_apply]
  cases run : monitor.worked c.report.infos.size c.world with
  | ok _ w =>
    rw [run] at told
    exact .single told
  | error f w =>
    rw [run] at told
    exact .single told

theorem literal_turns (target : String) (c : Call σ) :
    Turns tool monitor origin c (stateAfter (literal tool monitor origin target c)) := by
  cases cached : c.world.cache.current.get? target with
  | some info =>
    rw [literal_hit tool monitor origin cached]
    exact .head (.hit cached) (reportWork_turns tool monitor origin _)
  | none =>
    cases said : (tool c.world.invocations target).outcome with
    | error f =>
      rw [literal_refused tool monitor origin cached said]
      exact .single (.refused said)
    | ok records =>
      rw [literal_answered tool monitor origin cached said]
      exact .head (.literal cached said) (reportWork_turns tool monitor origin _)

/-- A member of an expansion is gone through as wildcards of its depth are, or as targets that stand
for themselves. -/
theorem member_turns {depth : Nat} {visiting : List String}
    (nested : ∀ {sub : String} {label : Label}, Label.parse sub = .ok label →
      label.isWildcard = true → ∀ c : Call σ,
        Turns tool monitor origin c (stateAfter (wildcard tool monitor origin depth visiting sub c)))
    (sub : String) (c : Call σ) :
    Turns tool monitor origin c (stateAfter (member tool monitor origin depth visiting sub c)) := by
  unfold member
  cases inside : Label.parse sub with
  | error fault => exact .refl
  | ok label =>
    simp only
    split
    next wild => exact nested inside wild c
    next => exact literal_turns tool monitor origin sub c

theorem wildcard_turns (depth : Nat) (visiting : List String) {target : String} {label : Label}
    (read : Label.parse target = .ok label) (wild : label.isWildcard = true) (c : Call σ) :
    Turns tool monitor origin c
      (stateAfter (wildcard tool monitor origin depth visiting target c)) := by
  induction depth generalizing visiting target label c with
  | zero => exact .refl
  | succ depth ih =>
    cases fresh : visiting.contains target with
    | true =>
      rw [wildcard_cycle tool monitor origin depth fresh]
      exact .refl
    | false =>
      cases known : c.world.cache.wildcards.get? target with
      | some expansion =>
        rw [wildcard_remembered tool monitor origin depth fresh known]
        exact Call.Chain.forM (member_turns tool monitor origin (ih (target :: visiting)))
          expansion c
      | none =>
        cases said : (tool c.world.invocations target).outcome with
        | error f =>
          rw [wildcard_refused tool monitor origin depth fresh known said]
          exact .single (.refused said)
        | ok records =>
          rw [wildcard_answered tool monitor origin depth fresh read known said]
          exact .head (.wildcard read wild known said) (reportWork_turns tool monitor origin _)

theorem request_turns (target : String) (c : Call σ) :
    Turns tool monitor origin c (stateAfter (request tool monitor origin target c)) := by
  have first : Turn tool monitor origin c _ := .asked c
  rw [request_eq]
  cases run : monitor.isCanceled c.world with
  | error f w =>
    rw [run] at first
    exact .single first
  | ok canceled w =>
    rw [run] at first
    cases canceled with
    | true => exact .single first
    | false =>
      cases read : Label.parse target with
      | error fault => exact .single first
      | ok label =>
        simp only
        split
        next wild =>
          exact .head first (wildcard_turns tool monitor origin nestingLimit []
            (Label.parse_canonical read) (Label.isWildcard_canonical wild) _)
        next => exact .head first (literal_turns tool monitor origin _ _)

theorem requests_turns (targets : List String) (c : Call σ) :
    Turns tool monitor origin c (stateAfter (requests tool monitor origin targets c)) :=
  Call.Chain.forM (request_turns tool monitor origin) targets c

end Resolve

end WorkspaceImport
