import WorkspaceImport.Proofs.Cache.Expansion
/-!
Nothing is computed twice. A record that a run of the tool brought is there until it is forgotten,
and so is the expansion that a wildcard was found to have; as long as they are there, no step asks the
tool for them. That a step does not ask is said by another tool in the place of the one at hand: the
step goes the same way with it.
-/
namespace WorkspaceImport

open Relation (ReflTransGen)

namespace Event

def forgets (target : String) : Event → Bool
  | .flushed => true
  | .dropped other => other == target
  | _ => false

/-- Whether a run of the tool brought a record of a target with an event. -/
def produces (target : String) : Event → Bool
  | .produced other _ _ => other == target
  | _ => false

/-- Whether a record of a target was brought since it was last forgotten. -/
def brought (target : String) (journal : List Event) : Bool :=
  (journal.takeWhile fun e => !e.forgets target).any (·.produces target)

theorem brought_cons (target : String) (e : Event) (earlier : List Event) :
    brought target (e :: earlier) =
      (!e.forgets target && (e.produces target || brought target earlier)) := by
  rw [brought, List.takeWhile_cons]
  cases e.forgets target <;> rfl

theorem brought_of_cons {target : String} {e : Event} {earlier : List Event}
    (none : e.produces target = false) (met : brought target (e :: earlier) = true) :
    brought target earlier = true := by
  rw [brought_cons, none, Bool.false_or, Bool.and_eq_true] at met
  exact met.2

end Event

namespace World

variable {σ : Type} {tool : Tool} {origin : Origin} {w : World σ}

def Stocked (w : World σ) : Prop :=
  ∀ target, Event.brought target w.journal = true → w.cache.current.contains target = true

theorem Stocked.log (stocked : w.Stocked) {e : Event} (none : ∀ target, e.produces target = false) :
    (w.log e).Stocked := fun target brought =>
  stocked target (Event.brought_of_cons (none target) brought)

theorem Stocked.tell (stocked : w.Stocked) (notes : List Note) : (w.tell notes).Stocked := by
  induction notes generalizing w with
  | nil => exact stocked
  | cons note rest ih => exact ih (stocked.log fun _ => rfl)

theorem Stocked.ask (stocked : w.Stocked) (target : String) :
    (w.ask tool origin target).Stocked := by
  unfold World.ask
  refine Stocked.tell ?_ _
  split
  next => exact stocked.log fun _ => rfl
  next => exact (stocked.log fun _ => rfl).log fun _ => rfl

theorem Stocked.produce (stocked : w.Stocked) (info : PackageInfo) :
    (w.produce origin info).Stocked := by
  intro target brought
  simp only [World.produce, World.log, Event.brought_cons, Event.forgets, Event.produces,
    Bool.not_false, Bool.true_and, Bool.or_eq_true, beq_iff_eq] at brought
  simp only [World.produce, Cache.store, OrderedMap.contains_insert, Bool.or_eq_true,
    decide_eq_true_eq]
  exact brought.imp_right (stocked target)

theorem Stocked.learn (stocked : w.Stocked) (target : String) (infos : List PackageInfo) :
    (w.learn tool origin target infos).Stocked := by
  have asked : (w.ask tool origin target).Stocked := stocked.ask target
  rw [World.learn]
  generalize w.ask tool origin target = v at asked
  induction infos generalizing v with
  | nil => exact asked
  | cons info rest ih => exact ih _ (asked.produce info)

theorem Stocked.drop (stocked : w.Stocked) (target : String) : (w.drop target).Stocked := by
  intro other brought
  simp only [World.drop, World.log, Event.brought_cons, Event.forgets, Event.produces,
    Bool.false_or, Bool.and_eq_true, Bool.not_eq_true', beq_eq_false_iff_ne] at brought
  rw [OrderedMap.contains_iff]
  simp only [World.drop, Cache.drop, OrderedMap.get?_erase, if_neg brought.1]
  exact OrderedMap.contains_iff.1 (stocked other brought.2)

theorem suffix_tell (w : World σ) (notes : List Note) : w.journal <:+ (w.tell notes).journal := by
  induction notes generalizing w with
  | nil => exact List.suffix_refl _
  | cons note rest ih => exact (List.suffix_cons _ _).trans (ih (w.log (.told note)))

theorem suffix_ask (w : World σ) (target : String) :
    w.journal <:+ (w.ask tool origin target).journal := by
  rw [World.ask]
  refine List.IsSuffix.trans ?_ (suffix_tell _ _)
  split
  next => exact List.suffix_cons _ _
  next => exact (List.suffix_cons _ _).trans (List.suffix_cons _ _)

theorem suffix_foldl_produce (infos : List PackageInfo) (w : World σ) :
    w.journal <:+ (infos.foldl (produce origin) w).journal := by
  induction infos generalizing w with
  | nil => exact List.suffix_refl _
  | cons info rest ih => exact (List.suffix_cons _ _).trans (ih (w.produce origin info))

theorem suffix_learn (w : World σ) (target : String) (infos : List PackageInfo) :
    w.journal <:+ (w.learn tool origin target infos).journal :=
  (suffix_ask w target).trans (suffix_foldl_produce infos _)

end World

theorem Effect.stocked {σ : Type} {tool : Tool} {v w : World σ} (effect : Effect tool v w)
    (stocked : v.Stocked) : w.Stocked := by
  cases effect with
  | @idle e idle =>
    apply stocked.log
    intro target
    cases e with
    | produced => cases idle
    | hit | missed | invoked | stale | failed | flushed | dropped | told => rfl
  | hit origin target => exact stocked.log (e := .hit target origin) fun _ => rfl
  | refused origin _ => exact stocked.ask _
  | learned origin _ => exact stocked.learn _ _
  | remembered _ _ _ => exact stocked
  | flushed =>
    intro target brought
    simp only [World.flush, World.log, Event.brought_cons, Event.forgets, Bool.not_true,
      Bool.false_and, Bool.false_eq_true] at brought
  | dropped target => exact stocked.drop target

theorem Effect.suffix {σ : Type} {tool : Tool} {v w : World σ} (effect : Effect tool v w) :
    v.journal <:+ w.journal := by
  cases effect with
  | idle | hit | flushed | dropped => exact List.suffix_cons _ _
  | refused origin _ => exact v.suffix_ask _
  | learned origin _ => exact v.suffix_learn _ _
  | remembered => exact List.suffix_refl _

namespace Snapshot

variable {tool : Tool} {s t u : Snapshot} {target : String}

def Next (tool : Tool) (s t : Snapshot) : Prop :=
  ∃ v w : World Account, v.snapshot = s ∧ w.snapshot = t ∧ Effect tool v w

/-- What can be seen after some more things that the cache does. -/
abbrev Later (tool : Tool) : Snapshot → Snapshot → Prop :=
  ReflTransGen (Next tool)

/-- Between two moments a target is not forgotten. -/
def Keeping (target : String) (s t : Snapshot) : Prop :=
  ∃ between, t.journal = between ++ s.journal ∧ ∀ e ∈ between, e.forgets target = false

theorem Later.suffix (later : Later tool s t) : s.journal <:+ t.journal := by
  induction later with
  | refl => exact List.suffix_refl _
  | tail _ next ih =>
    obtain ⟨v, w, rfl, rfl, effect⟩ := next
    exact ih.trans effect.suffix

theorem Keeping.split (keeping : Keeping target s u) (first : s.journal <:+ t.journal)
    (second : t.journal <:+ u.journal) : Keeping target s t ∧ Keeping target t u := by
  obtain ⟨between, whole, spared⟩ := keeping
  obtain ⟨before, toMiddle⟩ := first
  obtain ⟨after, fromMiddle⟩ := second
  rw [← toMiddle, ← List.append_assoc, whole] at fromMiddle
  have parts := List.append_cancel_right fromMiddle
  rw [← parts] at spared
  refine ⟨⟨before, toMiddle.symm, ?_⟩, ⟨after, ?_, ?_⟩⟩
  · exact fun e member => spared e (List.mem_append_right _ member)
  · rw [whole, ← parts, ← toMiddle, List.append_assoc]
  · exact fun e member => spared e (List.mem_append_left _ member)

theorem Next.remembers (next : Next tool s t) (keeping : Keeping target s t)
    (remembered : s.cache.wildcards.contains target = true) :
    t.cache.wildcards.contains target = true := by
  obtain ⟨v, w, rfl, rfl, effect⟩ := next
  obtain ⟨between, whole, spared⟩ := keeping
  simp only [World.snapshot] at remembered whole ⊢
  cases effect with
  | idle | hit => exact remembered
  | refused origin _ =>
    rw [World.ask_cache]
    exact remembered
  | learned origin _ =>
    rw [World.learn_cache]
    exact remembered
  | remembered _ _ _ =>
    simp only [World.remember, Cache.remember, OrderedMap.contains_insert, remembered,
      Bool.or_true]
  | flushed =>
    have new : between = [.flushed] := (List.append_cancel_right (by rw [← whole]; rfl)).symm
    rw [new] at spared
    cases spared _ List.mem_cons_self
  | dropped other =>
    have new : between = [.dropped (canonicalLabel other)] :=
      (List.append_cancel_right (by rw [← whole]; rfl)).symm
    rw [new] at spared
    have differ : canonicalLabel other ≠ target := by
      simpa [Event.forgets] using spared _ List.mem_cons_self
    rw [OrderedMap.contains_iff] at remembered ⊢
    simpa [World.drop, Cache.drop, OrderedMap.get?_erase, differ] using remembered

theorem Later.remembers (later : Later tool s t) (keeping : Keeping target s t)
    (remembered : s.cache.wildcards.contains target = true) :
    t.cache.wildcards.contains target = true := by
  induction later with
  | refl => exact remembered
  | tail earlier next ih =>
    obtain ⟨v, w, rfl, rfl, effect⟩ := next
    obtain ⟨first, last⟩ := keeping.split (Later.suffix earlier) effect.suffix
    exact Next.remembers ⟨v, w, rfl, rfl, effect⟩ last (ih first)

theorem Later.stocked (later : Later tool ⟨.empty, []⟩ s)
    (brought : Event.brought target s.journal = true) :
    s.cache.current.contains target = true := by
  have all : ∀ other, Event.brought other s.journal = true →
      s.cache.current.contains other = true := by
    clear brought
    induction later with
    | refl =>
      intro other brought
      cases brought
    | tail _ next ih =>
      obtain ⟨v, w, rfl, rfl, effect⟩ := next
      exact effect.stocked ih
  exact all target brought

end Snapshot

theorem Snapshot.Reachable.later {tool : Tool} {s : Snapshot} (reached : s.Reachable tool) :
    Snapshot.Later tool ⟨.empty, []⟩ s :=
  reached.keep .refl fun v w effect earlier => .tail earlier ⟨v, w, rfl, rfl, effect⟩

theorem Usage.snapshots_later (tool : Tool) (usage : Usage) :
    (usage.snapshots tool).Pairwise fun t s => Snapshot.Later tool s t := by
  let seen (w : World Account) : List Snapshot := w.snapshot :: w.client.sightings.map (·.snapshot)
  let J (w : World Account) : Prop := (seen w).Pairwise fun t s => Snapshot.Later tool s t
  have effect : ∀ v w, Effect tool v w → J v → J w := by
    intro v w effect before
    obtain ⟨now, earlier⟩ := List.pairwise_cons.1 before
    simp only [J, seen, effect.client_eq]
    refine List.pairwise_cons.2 ⟨?_, earlier⟩
    intro s member
    exact .tail (now s member) ⟨v, w, rfl, rfl, effect⟩
  have taken : Action.Keeps J takeSnapshot := by
    intro w before
    obtain ⟨now, _⟩ := List.pairwise_cons.1 before
    refine List.pairwise_cons.2 ⟨?_, before⟩
    intro s member
    rcases List.mem_cons.1 member with rfl | older
    · exact .refl
    · exact now s older
  have kept : Usage.Keeps tool J := (Cache.Keeps.of_effect effect).usage (fun _ _ same => same) taken
  refine Usage.run_keep_world kept usage Usage.opening ?_
  refine List.pairwise_pair.2 ?_
  exact .refl

namespace Resolve

variable {σ : Type} {tool other : Tool} {monitor : Monitor σ} {origin : Origin}
  {target sub : String}

theorem compute_congr (same : ∀ earlier, other earlier sub = tool earlier sub) :
    (compute other origin sub : Step σ Records) = compute tool origin sub := by
  unfold compute
  simp only [same]

theorem literal_congr (same : ∀ earlier, other earlier sub = tool earlier sub) :
    literal other monitor origin sub = literal tool monitor origin sub := by
  unfold literal
  simp only [compute_congr same]

section Wildcards

variable {label : Label} (read : Label.parse target = .ok label) (wild : label.isWildcard = true)
  (same : ∀ earlier t, t ≠ target → other earlier t = tool earlier t)

include read wild same

theorem member_congr {depth : Nat} {visiting : List String}
    (nested : ∀ sub, wildcard other monitor origin depth visiting sub =
      wildcard tool monitor origin depth visiting sub) (sub : String) :
    member other monitor origin depth visiting sub =
      member tool monitor origin depth visiting sub := by
  unfold member
  cases inside : Label.parse sub with
  | error fault => rfl
  | ok label' =>
    simp only
    split
    next => exact nested sub
    next single =>
      have differ : sub ≠ target := by
        rintro rfl
        rw [read] at inside
        cases inside
        exact single wild
      exact literal_congr fun earlier => same earlier sub differ

theorem wildcard_congr (depth : Nat) {visiting : List String} (met : target ∈ visiting)
    (sub : String) : wildcard other monitor origin depth visiting sub =
      wildcard tool monitor origin depth visiting sub := by
  induction depth generalizing visiting sub with
  | zero => rfl
  | succ depth ih =>
    funext c
    cases fresh : visiting.contains sub with
    | true =>
      rw [wildcard_cycle other monitor origin depth fresh,
        wildcard_cycle tool monitor origin depth fresh]
    | false =>
      have differ : sub ≠ target := by
        rintro rfl
        rw [List.contains_iff_mem.2 met] at fresh
        cases fresh
      have computes : (compute other origin sub : Step σ Records) = compute tool origin sub :=
        compute_congr fun earlier => same earlier sub differ
      have members : member other monitor origin depth (sub :: visiting) =
          member tool monitor origin depth (sub :: visiting) :=
        funext (member_congr read wild same (ih (List.mem_cons_of_mem _ met)))
      cases known : c.world.cache.wildcards.get? sub with
      | some expansion =>
        rw [wildcard_remembered other monitor origin depth fresh known,
          wildcard_remembered tool monitor origin depth fresh known, members]
      | none =>
        simp only [wildcard, fresh, Bool.false_eq_true, if_false, Step.bind_apply,
          Step.cache_apply, known, computes]

theorem wildcard_remembered_congr {c : Call σ}
    (remembered : c.world.cache.wildcards.contains target = true) (depth : Nat)
    (visiting : List String) : wildcard other monitor origin depth visiting target c =
      wildcard tool monitor origin depth visiting target c := by
  cases depth with
  | zero => rfl
  | succ depth =>
    cases fresh : visiting.contains target with
    | true =>
      rw [wildcard_cycle other monitor origin depth fresh,
        wildcard_cycle tool monitor origin depth fresh]
    | false =>
      obtain ⟨expansion, known⟩ := OrderedMap.contains_iff.1 remembered
      have members : member other monitor origin depth (target :: visiting) =
          member tool monitor origin depth (target :: visiting) :=
        funext (member_congr read wild same
          (wildcard_congr read wild same depth List.mem_cons_self))
      rw [wildcard_remembered other monitor origin depth fresh known,
        wildcard_remembered tool monitor origin depth fresh known, members]

end Wildcards

theorem literal_cached_congr {c : Call σ}
    (cached : c.world.cache.current.contains target = true) :
    literal other monitor origin target c = literal tool monitor origin target c := by
  obtain ⟨info, found⟩ := OrderedMap.contains_iff.1 cached
  rw [literal_hit other monitor origin found, literal_hit tool monitor origin found]

theorem contains_answerWildcard (c : Call σ) (package : String) {records : Records}
    (some : records.values ≠ []) :
    (c.answerWildcard tool origin target package records.values).world.cache.wildcards.contains
      target = true := by
  have found : ¬(Records.canonical records.values).isEmpty = true := by
    intro none
    obtain ⟨info, member⟩ := List.exists_mem_of_ne_nil _ some
    have present := Records.contains_canonical member
    rw [OrderedMap.isEmpty_iff.1 none] at present
    cases present
  simp only [Call.answerWildcard, found, Bool.false_eq_true, if_false]
  simp [Call.addComputed, Call.remember, World.remember, Cache.remember]

end Resolve

/-- Nothing is computed twice before it is forgotten. The moments that a usage comes upon follow each
other. Whatever run of the tool brought a record, as long as its target is not forgotten, no step for
that target alone asks the tool at all. And when a step for a wildcard has asked the tool and got a
record, then at all moments from its next announcement on, as long as the wildcard is not forgotten,
no step for it asks the tool for it. -/
theorem Cache.computed_once {σ : Type} (tool : Tool) :
    (∀ usage : Usage, (usage.snapshots tool).Pairwise fun t s => Snapshot.Later tool s t) ∧
    (∀ (target : String) (d : Call σ),
      Snapshot.Later tool ⟨.empty, []⟩ d.world.snapshot →
      Event.brought target d.world.journal = true →
      ∀ other monitor origin, Resolve.literal other monitor origin target d =
        Resolve.literal tool monitor origin target d) ∧
    ∀ (target : String) (label : Label) (b d : Call σ) (records : Records) (origin : Origin),
      Label.parse target = .ok label → label.isWildcard = true →
      b.world.cache.wildcards.get? target = none →
      (tool b.world.invocations target).outcome = .ok records → records.values ≠ [] →
      let c := b.answerWildcard tool origin target label.package records.values
      (∀ monitor depth visiting, target ∉ visiting →
        Resolve.wildcard tool monitor origin (depth + 1) visiting target b =
          Resolve.reportWork monitor c) ∧
      (Snapshot.Later tool c.world.snapshot d.world.snapshot →
        Snapshot.Keeping target c.world.snapshot d.world.snapshot →
        ∀ other, (∀ earlier t, t ≠ target → other earlier t = tool earlier t) →
          ∀ monitor origin depth visiting,
            Resolve.wildcard other monitor origin depth visiting target d =
              Resolve.wildcard tool monitor origin depth visiting target d) := by
  refine ⟨Usage.snapshots_later tool, ?_, ?_⟩
  · intro target d later brought other monitor origin
    exact Resolve.literal_cached_congr (Snapshot.Later.stocked later brought)
  · intro target label b d records origin read wild unknown answered some c
    constructor
    · intro monitor depth visiting fresh
      exact Resolve.wildcard_answered tool monitor origin depth
        (by simpa using fresh) read unknown answered
    · intro later keeping other same monitor origin' depth visiting
      have remembered := Snapshot.Later.remembers later keeping
        (Resolve.contains_answerWildcard b label.package some)
      exact Resolve.wildcard_remembered_congr read wild same remembered depth visiting

/-- A run for a wildcard brings a record of one target; neither of them is asked for again. -/
theorem Cache.computed_once_sample :
    let tool := Tool.listing [("//a:*", ["//a:x"])]
    let w := (Usage.resolving ["//a:*"]).ending tool
    let b : Call (List Snapshot) := ⟨.empty, Usage.beginning⟩
    Event.brought "//a:x" w.journal = true ∧
      (∀ other monitor origin, Resolve.literal other monitor origin "//a:x" ⟨.empty, w⟩ =
        Resolve.literal tool monitor origin "//a:x" ⟨.empty, w⟩) ∧
      ∃ c, Resolve.wildcard tool .silent default nestingLimit [] "//a:*" b =
          Resolve.reportWork .silent c ∧
        ∀ other, (∀ earlier t, t ≠ "//a:*" → other earlier t = tool earlier t) →
          Resolve.wildcard other .silent default nestingLimit [] "//a:*" c =
            Resolve.wildcard tool .silent default nestingLimit [] "//a:*" c := by
  intro tool w b
  let label : Label := ⟨"", "a", some "*"⟩
  let records := Tool.listed [("//a:*", ["//a:x"])] "//a:*"
  let c := b.answerWildcard tool default "//a:*" label.package records.values
  have law := @computed_once (List Snapshot) tool
  have cached (v : World (List Snapshot)) (reached : v.snapshot.Reachable tool)
      (brought : Event.brought "//a:x" v.journal = true) :=
    law.2.1 "//a:x" ⟨.empty, v⟩ reached.later brought
  obtain ⟨asked, spared⟩ := law.2.2 "//a:*" label b c records default
    (by decide +kernel) (by decide +kernel) rfl rfl (by decide +kernel)
  have reached : w.snapshot.Reachable tool := Usage.ending_reachable tool _
  have brought : Event.brought "//a:x" w.journal = true := by decide +kernel
  refine ⟨brought, cached w reached brought, c, asked .silent (nestingLimit - 1) [] List.not_mem_nil, ?_⟩
  intro other same
  exact spared .refl ⟨[], rfl, fun _ member => by cases member⟩ other same .silent default
    nestingLimit []

end WorkspaceImport
