import WorkspaceImport.Proofs.Cache.Once
import Mathlib.Data.List.Pairwise
/-!
Where things stand in a cache. Records stand under the canonical spelling of their own labels, and
expansions under the one spelling of their wildcard; an expansion lists some known targets, each of
them once. No operation, failure or use from within a resolution leaves it otherwise, and what is
known of a target is never forgotten.
-/
namespace WorkspaceImport

def NamesWildcard (s : String) : Prop :=
  canonicalLabel s = s ∧ ∃ label, Label.parse s = .ok label ∧ label.isWildcard = true

theorem namesWildcard_of_parse {s : String} {label : Label} (read : Label.parse s = .ok label)
    (wild : label.isWildcard = true) : NamesWildcard (canonicalLabel s) :=
  ⟨canonicalLabel_canonicalLabel s, label.canonical, parse_canonicalLabel read,
    Label.isWildcard_canonical wild⟩

namespace Cache

/-- An expansion as it may be remembered: a wildcard in its one spelling stands for some targets, each
listed once, of all of which something is known. -/
structure Lists (c : Cache) (wildcard : String) (targets : List String) : Prop where
  named : NamesWildcard wildcard
  some : targets ≠ []
  distinct : targets.Nodup
  known : ∀ target ∈ targets, c.lastGood.contains target = true

def Listed (c : Cache) : Prop :=
  ∀ wildcard targets, c.wildcards.get? wildcard = some targets → c.Lists wildcard targets

/-- Everything stands where it belongs. -/
structure Orderly (c : Cache) : Prop where
  current : ∀ target info, c.current.get? target = some info → canonicalLabel info.label = target
  lastGood : ∀ target info, c.lastGood.get? target = some info → canonicalLabel info.label = target
  wildcards : c.Listed

variable {c d : Cache}

theorem Lists.grow {wildcard : String} {targets : List String} (lists : c.Lists wildcard targets)
    (grown : ∀ target, c.lastGood.contains target = true → d.lastGood.contains target = true) :
    d.Lists wildcard targets :=
  ⟨lists.named, lists.some, lists.distinct, fun target member => grown target (lists.known target member)⟩

theorem Lists.spelled {wildcard : String} {targets : List String} (sound : c.Sound)
    (lists : c.Lists wildcard targets) : ∀ target ∈ targets, canonicalLabel target = target := by
  intro target member
  obtain ⟨info, found⟩ := OrderedMap.contains_iff.1 (lists.known target member)
  rw [← sound.own target info found]
  exact canonicalLabel_canonicalLabel info.label

theorem orderly (sound : c.Sound) (listed : c.Listed) : c.Orderly where
  current target info found := sound.own target info (sound.known target info found)
  lastGood := sound.own
  wildcards := listed

end Cache

theorem Snapshot.Later.contains_lastGood {tool : Tool} {s t : Snapshot} (later : Later tool s t)
    {target : String} (known : s.cache.lastGood.contains target = true) :
    t.cache.lastGood.contains target = true := by
  induction later with
  | refl => exact known
  | tail _ next ih =>
    obtain ⟨v, w, rfl, rfl, effect⟩ := next
    exact effect.contains_lastGood ih

/-- An effect with which expansions are remembered only of wildcards in their one spelling. -/
structure NamedEffect {σ : Type} (tool : Tool) (v w : World σ) : Prop where
  effect : Effect tool v w
  named : ∀ wildcard, w.cache.wildcards.contains wildcard = true →
    v.cache.wildcards.contains wildcard = true ∨ NamesWildcard wildcard

namespace NamedEffect

variable {σ : Type} {tool : Tool} {v w : World σ}

theorem of_effect (effect : Effect tool v w)
    (kept : ∀ wildcard, w.cache.wildcards.contains wildcard = true →
      v.cache.wildcards.contains wildcard = true) : NamedEffect tool v w :=
  ⟨effect, fun wildcard present => .inl (kept wildcard present)⟩

theorem listed (named : NamedEffect tool v w) (listed : v.cache.Listed) : w.cache.Listed := by
  obtain ⟨effect, named⟩ := named
  have grown (target : String) (known : v.cache.lastGood.contains target = true) :
      w.cache.lastGood.contains target = true := effect.contains_lastGood known
  intro wildcard targets found
  have old (before : v.cache.wildcards.get? wildcard = some targets) :
      w.cache.Lists wildcard targets := (listed wildcard targets before).grow grown
  cases effect with
  | idle | hit => exact old found
  | refused origin _ =>
    rw [World.ask_cache] at found
    exact old found
  | learned origin _ =>
    rw [World.learn_cache] at found
    exact old found
  | @remembered other members some brought known =>
    simp only [World.remember, Cache.remember, OrderedMap.get?_insert] at found
    split at found
    next same =>
      cases found
      subst same
      obtain ⟨earlier, records, _, keys⟩ := brought
      have spelled : NamesWildcard other := by
        rcases named other (by simp [World.remember, Cache.remember]) with before | new
        · obtain ⟨members, there⟩ := OrderedMap.contains_iff.1 before
          exact (listed other members there).named
        · exact new
      have distinct : targets.Nodup := keys ▸ (Records.canonical records.values).nodup
      exact ⟨spelled, some, distinct, known⟩
    next => exact old found
  | flushed => cases found
  | dropped target =>
    simp only [World.drop, Cache.drop, OrderedMap.get?_erase] at found
    split at found
    next => cases found
    next => exact old found

end NamedEffect

def Step.Keeps {σ α : Type} (J : World σ → Prop) (s : Step σ α) : Prop :=
  ∀ c, J c.world → J (stateAfter (s c)).world

theorem Step.Keeps.forM {σ α : Type} {J : World σ → Prop} {f : α → Step σ PUnit} {xs : List α}
    (each : ∀ x ∈ xs, Keeps J (f x)) : Keeps J (xs.forM f) := by
  induction xs with
  | nil => exact fun c start => start
  | cons x rest ih =>
    intro c start
    obtain ⟨first, others⟩ := List.forall_mem_cons.1 each
    have after := first c start
    rw [Step.forM_cons_apply]
    cases run : f x c with
    | error e d =>
      rw [run] at after
      exact after
    | ok _ d =>
      rw [run] at after
      exact ih others d after

namespace Resolve

variable {σ : Type} {tool : Tool} {monitor : Monitor σ} {origin : Origin} {J : World σ → Prop}
  (effect : ∀ v w, NamedEffect tool v w → J v → J w) (watched : monitor.Keeps J)

include watched in
theorem reportWork_keeps : Step.Keeps J (reportWork monitor) := by
  intro c start
  have told := watched.worked c.report.infos.size c.world start
  rw [reportWork_apply]
  cases run : monitor.worked c.report.infos.size c.world <;> (rw [run] at told; exact told)

include effect

theorem keep_log {w : World σ} {e : Event} (idle : e.isIdle = true) (start : J w) : J (w.log e) :=
  effect _ _ (.of_effect (.idle idle) fun _ present => present) start

theorem keep_refused {w : World σ} {target : String} {f : Failure}
    (refused : (tool w.invocations target).outcome = .error f) (start : J w) :
    J (w.ask tool origin target) := by
  refine effect _ _ (.of_effect (.refused origin refused) fun _ present => ?_) start
  rw [World.ask_cache] at present
  exact present

theorem keep_learned {w : World σ} {target : String} {records : Records}
    (answered : (tool w.invocations target).outcome = .ok records) (start : J w) :
    J (w.learn tool origin target records.values) := by
  refine effect _ _ (.of_effect (.learned origin answered) fun _ present => ?_) start
  rw [World.learn_cache] at present
  exact present

theorem answerLiteral_keep {c : Call σ} {target : String} {records : Records}
    (answered : (tool c.world.invocations target).outcome = .ok records) (start : J c.world) :
    J (c.answerLiteral tool origin target records.values).world := by
  have learned : J (c.learn tool origin target records.values).world :=
    keep_learned effect answered start
  simp only [Call.answerLiteral]
  split
  next => exact learned
  next =>
    split
    next => exact learned
    next =>
      obtain ⟨e, idle, same⟩ :=
        (c.learn tool origin target records.values).fallBack_world origin target
      rw [same]
      exact keep_log effect idle learned

theorem answerWildcard_keep {c : Call σ} {target package : String} {records : Records}
    (named : NamesWildcard target)
    (answered : (tool c.world.invocations target).outcome = .ok records) (start : J c.world) :
    J (c.answerWildcard tool origin target package records.values).world := by
  have learned : J (c.learn tool origin target records.values).world :=
    keep_learned effect answered start
  simp only [Call.answerWildcard]
  split
  next =>
    obtain ⟨e, idle, same⟩ :=
      (c.learn tool origin target records.values).fallBackPackage_world origin target package
    rw [same]
    exact keep_log effect idle learned
  next found =>
    refine effect _ _ ⟨.remembered (OrderedMap.keys_ne_nil found) ⟨_, records, answered, rfl⟩
      fun _ member => contains_learn_lastGood tool origin c target member, ?_⟩ learned
    intro wildcard present
    simp only [Call.addComputed, Call.remember, World.remember, Cache.remember,
      OrderedMap.contains_insert, Bool.or_eq_true, decide_eq_true_eq] at present
    rcases present with rfl | before
    · exact .inr named
    · exact .inl before

include watched

theorem literal_keeps (target : String) :
    Step.Keeps J (literal tool monitor origin target) := by
  intro c start
  cases cached : c.world.cache.current.get? target with
  | some info =>
    rw [literal_hit tool monitor origin cached]
    exact reportWork_keeps watched _
      (effect _ _ (.of_effect (.hit origin target) fun _ present => present) start)
  | none =>
    cases said : (tool c.world.invocations target).outcome with
    | error f =>
      rw [literal_refused tool monitor origin cached said]
      exact keep_refused effect said start
    | ok records =>
      rw [literal_answered tool monitor origin cached said]
      exact reportWork_keeps watched _ (answerLiteral_keep effect said start)

variable (spelled : ∀ w, J w → ∀ wildcard targets,
  w.cache.wildcards.get? wildcard = some targets → ∀ target ∈ targets, canonicalLabel target = target)
include spelled

/-- The wildcards that are met on the way are named like the one that was asked for: they are known
targets, and so they are spelled canonically. -/
theorem wildcard_keeps (depth : Nat) (visiting : List String) {target : String}
    (named : NamesWildcard target) :
    Step.Keeps J (wildcard tool monitor origin depth visiting target) := by
  induction depth generalizing visiting target with
  | zero => exact fun c start => start
  | succ depth ih =>
    intro c start
    cases fresh : visiting.contains target with
    | true =>
      rw [wildcard_cycle tool monitor origin depth fresh]
      exact start
    | false =>
      cases known : c.world.cache.wildcards.get? target with
      | some expansion =>
        rw [wildcard_remembered tool monitor origin depth fresh known]
        refine Step.Keeps.forM (fun sub member => ?_) c start
        intro b before
        unfold Resolve.member
        cases inside : Label.parse sub with
        | error fault => exact before
        | ok label =>
          simp only
          split
          next wild =>
            exact ih _ ⟨spelled _ start _ _ known sub member, label, inside, wild⟩ b before
          next => exact literal_keeps effect watched sub b before
      | none =>
        obtain ⟨label, read, _⟩ := named.2
        cases said : (tool c.world.invocations target).outcome with
        | error f =>
          rw [wildcard_refused tool monitor origin depth fresh known said]
          exact keep_refused effect said start
        | ok records =>
          rw [wildcard_answered tool monitor origin depth fresh read known said]
          exact reportWork_keeps watched _ (answerWildcard_keep effect named said start)

theorem request_keeps (target : String) :
    Step.Keeps J (request tool monitor origin target) := by
  intro c start
  have asked := watched.isCanceled c.world start
  rw [request_eq]
  cases run : monitor.isCanceled c.world with
  | error f w =>
    rw [run] at asked
    exact asked
  | ok canceled w =>
    rw [run] at asked
    cases canceled with
    | true => exact asked
    | false =>
      cases read : Label.parse target with
      | error fault => exact asked
      | ok label =>
        have spelling : canonicalLabel target = label.canonical.text := by
          rw [canonicalLabel, read]
        simp only
        split
        next wild =>
          have named := namesWildcard_of_parse read wild
          rw [spelling] at named
          exact wildcard_keeps effect watched spelled nestingLimit [] named _ asked
        next => exact literal_keeps effect watched _ _ asked

theorem requests_keeps (targets : List String) :
    Step.Keeps J (requests tool monitor origin targets) :=
  Step.Keeps.forM fun target _ => request_keeps effect watched spelled target

end Resolve

theorem Cache.keeps_listed (tool : Tool) :
    Cache.Keeps tool (Witnessed fun m => m.snapshot.cache.Sound ∧ m.snapshot.cache.Listed) := by
  let J : World Account → Prop :=
    Witnessed fun m => m.snapshot.cache.Sound ∧ m.snapshot.cache.Listed
  have effect (v w : World Account) (named : NamedEffect tool v w) (start : J v) : J w := by
    obtain ⟨⟨sound, listed⟩, earlier⟩ := start
    refine ⟨⟨named.effect.sound sound, named.listed listed⟩, ?_⟩
    rw [named.effect.client_eq]
    exact earlier
  have told (w : World Account) (notes : List Note) (start : J w) : J (w.tell notes) := by
    induction notes generalizing w with
    | nil => exact start
    | cons note rest ih => exact ih _ (Resolve.keep_log effect rfl start)
  have emptied (v w : World Account) (change : Effect tool v w)
      (kept : ∀ wildcard, w.cache.wildcards.contains wildcard = true →
        v.cache.wildcards.contains wildcard = true) := effect v w (.of_effect change kept)
  refine ⟨told, ?_, ?_, ?_⟩
  · exact fun w => emptied _ _ (.flushed w) fun _ present => by cases present
  · intro w target
    refine emptied _ _ (.dropped w target) fun wildcard present => ?_
    obtain ⟨targets, found⟩ := OrderedMap.contains_iff.1 present
    simp only [World.drop, Cache.drop, OrderedMap.get?_erase] at found
    split at found
    next => cases found
    next => exact OrderedMap.contains_iff.2 ⟨targets, found⟩
  · intro monitor origin targets watched
    refine resolveWithReport_keep_of told watched fun v begun => ?_
    refine Resolve.requests_keeps effect watched ?_ targets _ begun
    intro w seen wildcard members found
    exact (seen.1.2 wildcard members found).spelled seen.1.1

/-- At every moment of every usage, each record stands under the canonical spelling of its own label,
each expansion under the one spelling of a wildcard, and lists known targets, at least one and none of
them twice. What is known of a target at some moment is known of it at every later one. -/
theorem Usage.snapshots_orderly (tool : Tool) (usage : Usage) :
    (∀ s ∈ usage.snapshots tool, s.cache.Orderly) ∧
    (usage.snapshots tool).Pairwise fun t s =>
      ∀ target, s.cache.lastGood.contains target = true → t.cache.lastGood.contains target = true := by
  constructor
  · intro s member
    have start : Cache.Listed .empty := fun _ _ found => by cases found
    obtain ⟨sound, listed⟩ :=
      usage.snapshots_keep (I := fun s => s.cache.Sound ∧ s.cache.Listed)
        ⟨Cache.Sound.empty, start⟩ (Cache.keeps_listed tool) s member
    exact Cache.orderly sound listed
  · refine (Usage.snapshots_later tool usage).imp ?_
    intro t s later target known
    exact later.contains_lastGood known

/-- A wildcard is resolved under another spelling. At every report of work one of its targets is
dropped, and it is resolved again before everything is flushed. -/
def Usage.sampleNested : Usage :=
  .resolve default [" @//a:*"] (fun _ => .done false)
    (fun _ => .flushFor ["//a"] (.resolve default ["//a:*"] (fun _ => .done false)
      (fun _ => .done false) (.done false) fun _ => .flush (.done true)))
    (.done false) fun _ => .done true

/-- In the nested resolution the expansion is remembered; after the flush its targets are still
known. -/
theorem Usage.snapshots_orderly_sample :
    let tool := Tool.listing [("//a:*", ["//a", "@//a:b"])]
    ∃ s ∈ sampleNested.snapshots tool, ∃ t ∈ sampleNested.snapshots tool,
      s.cache.Lists "//a:*" ["//a:a", "//a:b"] ∧ s.cache.current.keys = ["//a:b"] ∧
      t.cache.wildcards.isEmpty = true ∧ t.cache.lastGood.contains "//a:b" = true := by
  intro tool
  obtain ⟨orderly, kept⟩ := snapshots_orderly tool sampleNested
  have nested := List.get_mem (sampleNested.snapshots tool) ⟨11, by decide +kernel⟩
  have flushed := List.get_mem (sampleNested.snapshots tool) ⟨7, by decide +kernel⟩
  have order : (⟨7, by decide +kernel⟩ : Fin (sampleNested.snapshots tool).length) <
      ⟨11, by decide +kernel⟩ := Fin.mk_lt_mk.2 (by decide)
  refine ⟨_, nested, _, flushed, (orderly _ nested).wildcards _ _ ?_, ?_, ?_, ?_⟩
  · decide +kernel
  · decide +kernel
  · decide +kernel
  · exact kept.rel_get_of_lt order "//a:b" (by decide +kernel)

end WorkspaceImport
