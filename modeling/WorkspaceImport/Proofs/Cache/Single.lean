import WorkspaceImport.Proofs.Cache.Marks
import WorkspaceImport.Proofs.Spelling
/-!
What a target costs that stands for itself. The tool is run for its canonical spelling, once at most,
and what that run brings of it is cached under the same spelling; no expansion is remembered. So the
tool is asked for a target that stands for itself whenever the canonical spelling does.
-/
namespace WorkspaceImport

namespace Call

variable {σ : Type} {tool : Tool} {origin : Origin} {c d : Call σ} {target : String}

/-- From one call to another the tool was run for one target at most, no expansion was remembered, and
the target is cached if a run brought it. -/
structure Single (tool : Tool) (target : String) (c d : Call σ) : Prop where
  runs : d.world.invocations = c.world.invocations ∨
    d.world.invocations = target :: c.world.invocations
  wildcards : d.world.cache.wildcards = c.world.cache.wildcards
  cached : tool.Brings c.world.invocations d.world.invocations target →
    d.world.cache.current.contains target = true

theorem fallBack_invocations (c : Call σ) :
    (c.fallBack origin target).world.invocations = c.world.invocations := by
  unfold fallBack
  split <;> rfl

theorem answerLiteral_invocations {records : Records}
    (answered : (tool c.world.invocations target).outcome = .ok records) :
    (c.answerLiteral tool origin target records.values).world.invocations =
      target :: c.world.invocations := by
  rw [← Resolve.invocations_learn tool origin answered]
  simp only [answerLiteral]
  split
  next => rfl
  next =>
    split
    next => rfl
    next => exact fallBack_invocations _

theorem Single.of_alike {v w : World σ} (alike : v.Alike w) (report report' : Report) :
    Single tool target ⟨report, w⟩ ⟨report', v⟩ where
  runs := .inl alike.invocations
  wildcards := by rw [alike.cache]
  cached brings := by
    rw [alike.invocations] at brings
    exact absurd brings Tool.not_brings_self

theorem Single.before {w : World σ} (single : Single tool target { c with world := w } d)
    (alike : w.Alike c.world) : Single tool target c d where
  runs := by
    rw [← alike.invocations]
    exact single.runs
  wildcards := by
    rw [← alike.cache]
    exact single.wildcards
  cached := by
    rw [← alike.invocations]
    exact single.cached

theorem Single.after {w : World σ} (single : Single tool target c d) (alike : w.Alike d.world) :
    Single tool target c { d with world := w } where
  runs := by
    rw [alike.invocations]
    exact single.runs
  wildcards := by
    rw [alike.cache]
    exact single.wildcards
  cached := by
    rw [alike.invocations, alike.cache]
    exact single.cached

theorem single_hit (info : PackageInfo) : Single tool target c (c.hit origin target info) where
  runs := .inl rfl
  wildcards := rfl
  cached brings := absurd brings Tool.not_brings_self

theorem single_ask {f : Failure} (refused : (tool c.world.invocations target).outcome = .error f) :
    Single tool target c (c.ask tool origin target) := by
  have runs := c.world.ask_invocations tool origin target
  have same := c.world.ask_cache tool origin target
  have none (brings : tool.Brings c.world.invocations (target :: c.world.invocations) target) :
      False := Tool.not_brings_self ((Tool.brings_refused refused).1 brings)
  constructor
  · rw [ask, runs]
    split
    next => exact .inl rfl
    next => exact .inr rfl
  · rw [ask, same]
  · rw [ask, runs]
    split
    next => exact fun brings => absurd brings Tool.not_brings_self
    next => exact fun brings => (none brings).elim

theorem single_answerLiteral {records : Records}
    (answered : (tool c.world.invocations target).outcome = .ok records) :
    Single tool target c (c.answerLiteral tool origin target records.values) := by
  have runs : (c.answerLiteral tool origin target records.values).world.invocations = _ :=
    answerLiteral_invocations answered
  constructor
  · exact .inr runs
  · exact (c.within_answerLiteral records.values).wildcards
  · intro brings
    rw [runs, Tool.brings_answered answered] at brings
    obtain ⟨_, present⟩ := brings.resolve_right Tool.not_brings_self
    simp only [answerLiteral_cache, learn, World.learn_cache, OrderedMap.contains_update, present,
      Bool.true_or]

end Call

namespace Resolve

variable {σ : Type} {tool : Tool} {monitor : Monitor σ} {origin : Origin}

theorem reportWork_single (passive : monitor.Passive) {target : String} {c d : Call σ}
    (single : Call.Single tool target c d) :
    Call.Single tool target c (stateAfter (reportWork monitor d)) := by
  obtain ⟨w, told, alike⟩ := passive.reportWork d
  rw [told]
  exact single.after alike

theorem literal_single (passive : monitor.Passive) (target : String) (c : Call σ) :
    Call.Single tool target c (stateAfter (literal tool monitor origin target c)) := by
  cases cached : c.world.cache.current.get? target with
  | some info =>
    rw [literal_hit tool monitor origin cached]
    exact reportWork_single passive (Call.single_hit info)
  | none =>
    cases said : (tool c.world.invocations target).outcome with
    | error f =>
      rw [literal_refused tool monitor origin cached said]
      exact Call.single_ask said
    | ok records =>
      rw [literal_answered tool monitor origin cached said]
      exact reportWork_single passive (Call.single_answerLiteral said)

/-- The canonical spelling of a label is a label, and a wildcard when the label is, unless the label is
short and its package ends in a name for all targets. The canonical spelling is what a request for a
label that stands for itself is about: the tool is run for nothing else, and nothing else is cached
for the request. -/
theorem request_single (passive : monitor.Passive) {target : String} {label : Label}
    (read : Label.parse target = .ok label) (c : Call σ) :
    ∃ spelled, Label.parse label.canonical.text = .ok spelled ∧
      (spelled.isWildcard = label.isWildcard ↔
        ¬(label.isShort = true ∧ label.lastSegment ∈ Label.wildcardNames)) ∧
      (label.isWildcard = false → Call.Single tool label.canonical.text c
        (stateAfter (request tool monitor origin target c))) := by
  refine ⟨label.canonical, Label.parse_canonical read, Label.isWildcard_canonical_iff, ?_⟩
  intro single
  obtain ⟨canceled, w, asked, alike⟩ := passive.isCanceled c.world
  rw [request_eq, asked]
  cases canceled with
  | true => exact .of_alike alike _ _
  | false =>
    simp only [read, single, Bool.false_eq_true, if_false]
    exact (literal_single passive _ _).before alike

/-- The target of a package below one that is named `all`. -/
theorem request_single_sample :
    let tool := Tool.listing [("//all/b:b", ["//all/b"])]
    let c : Call (List Snapshot) := ⟨.empty, Usage.beginning⟩
    let d := stateAfter (request tool .silent default "//all/b" c)
    (∃ spelled, Label.parse "//all/b:b" = .ok spelled ∧ spelled.isWildcard = false) ∧
      d.world.invocations = ["//all/b:b"] ∧ d.world.cache.wildcards.isEmpty = true ∧
      d.world.cache.current.contains "//all/b:b" = true := by
  intro tool c d
  have read : Label.parse "//all/b" = .ok ⟨"", "all/b", none⟩ := by decide +kernel
  obtain ⟨spelled, parsed, same, single⟩ := @request_single (List Snapshot) tool .silent default
    Monitor.silent_patient.toPassive _ _ read c
  have text : (⟨"", "all/b", none⟩ : Label).canonical.text = "//all/b:b" := by decide +kernel
  rw [text] at parsed single
  obtain ⟨runs, wildcards, cached⟩ := single (by decide +kernel)
  have ran : d.world.invocations = ["//all/b:b"] := by decide +kernel
  refine ⟨⟨spelled, parsed, ?_⟩, ran, ?_, cached ?_⟩
  · rw [same.2 (by decide +kernel)]
    decide +kernel
  · rw [wildcards]
    rfl
  · rw [ran]
    exact ⟨"//all/b:b", [], _, List.suffix_refl _, List.suffix_refl _, rfl,
      ⟨"//all/b", [], [], [], "", ""⟩, by decide +kernel, by decide +kernel⟩

/-- The tool is run for a wildcard where a label was requested that is none. -/
theorem request_single_shortForm :
    let r := Cache.resolveWithReport (Tool.listing []) .silent default ["//a/all"] Usage.beginning
    (Label.parse "//a/all").toOption.map Label.isWildcard = some false ∧
      (stateAfter r).invocations = ["//a/all:all"] ∧
      (Label.parse "//a/all:all").toOption.map Label.isWildcard = some true := by
  refine ⟨?_, ?_, ?_⟩ <;> decide +kernel

end Resolve

end WorkspaceImport
