import WorkspaceImport.Proofs.Cache.Usage
/-!
What is remembered of wildcards. An expansion comes from a run of the tool for its wildcard, and from
then on stays the same until it is forgotten. Among what a wildcard stands for there may be others,
and so expansions may lead on from one wildcard to the next.
-/
namespace WorkspaceImport

open Relation (ReflTransGen TransGen)

abbrev Expansions := String → List String → Prop

namespace Expansions

variable {E F : Expansions}

/-- Among what a wildcard stands for is another one. -/
def Leads (E : Expansions) (wildcard other : String) : Prop :=
  ∃ members, E wildcard members ∧ other ∈ members ∧
    ∃ label, Label.parse other = .ok label ∧ label.isWildcard = true

def LeadsIn (E : Expansions) : Nat → String → String → Prop
  | 0, start, target => start = target
  | n + 1, start, target => ∃ before, E.LeadsIn n start before ∧ E.Leads before target

/-- Expansions lead from a target back to no wildcard, nor on and on. -/
structure Settles (E : Expansions) (start : String) : Prop where
  straight : ∀ other, ReflTransGen E.Leads start other → ¬TransGen E.Leads other other
  shallow : ∀ other, ¬E.LeadsIn nestingLimit start other

/-- The failure is that a wildcard was met again which expansions lead to from one of the targets, and
from itself. -/
def Circles (E : Expansions) (targets : List String) (f : Failure) : Prop :=
  ∃ target ∈ targets, ∃ other, f = .expansionCycle other ∧
    ReflTransGen E.Leads (canonicalLabel target) other ∧ TransGen E.Leads other other

theorem LeadsIn.reflTransGen {n : Nat} {start target : String} (leads : E.LeadsIn n start target) :
    ReflTransGen E.Leads start target := by
  induction n generalizing target with
  | zero =>
    rw [show start = target from leads]
  | succ n ih =>
    obtain ⟨before, earlier, last⟩ := leads
    exact .tail (ih earlier) last

theorem settles_of_not_leads {start : String} (still : ∀ other, ¬E.Leads start other) :
    E.Settles start := by
  have stays {other : String} (led : ReflTransGen E.Leads start other) : start = other := by
    rcases led.cases_head with same | ⟨next, first, _⟩
    · exact same
    · exact absurd first (still next)
  constructor
  · intro other led back
    rw [← stays led] at back
    obtain ⟨next, first, _⟩ := TransGen.head'_iff.1 back
    exact still next first
  · intro other led
    obtain ⟨before, earlier, last⟩ := led
    rw [← stays earlier.reflTransGen] at last
    exact still other last

section Fixed

/- Where what a wildcard stands for is the same on the whole way that one of the two leads. -/
variable {start : String} (same : ∀ other, ReflTransGen E.Leads start other → ∀ members,
  F other members → E other members)
include same

theorem Leads.back {wildcard other : String} (led : ReflTransGen E.Leads start wildcard)
    (leads : F.Leads wildcard other) : E.Leads wildcard other := by
  obtain ⟨members, stands, among, read⟩ := leads
  exact ⟨members, same wildcard led members stands, among, read⟩

theorem reflTransGen_back {wildcard other : String} (led : ReflTransGen E.Leads start wildcard)
    (leads : ReflTransGen F.Leads wildcard other) : ReflTransGen E.Leads wildcard other := by
  induction leads with
  | refl => exact .refl
  | tail _ last ih => exact .tail ih (Leads.back same (led.trans ih) last)

theorem LeadsIn.back {n : Nat} {other : String} (leads : F.LeadsIn n start other) :
    E.LeadsIn n start other := by
  induction n generalizing other with
  | zero => exact leads
  | succ n ih =>
    obtain ⟨before, earlier, last⟩ := leads
    exact ⟨before, ih earlier, Leads.back same (ih earlier).reflTransGen last⟩

theorem Settles.of_same (settles : E.Settles start) : F.Settles start where
  straight other led round := by
    have reached : ReflTransGen E.Leads start other := reflTransGen_back same .refl led
    obtain ⟨next, first, rest⟩ := TransGen.head'_iff.1 round
    have onward : E.Leads other next := Leads.back same reached first
    exact settles.straight other reached
      (TransGen.head' onward (reflTransGen_back same (.tail reached onward) rest))
  shallow other led := settles.shallow other (LeadsIn.back same led)

end Fixed

end Expansions

def Cache.expansions (cache : Cache) : Expansions := fun wildcard members =>
  cache.wildcards.get? wildcard = some members

/-- In a run for a wildcard, after some others, the tool brought records of these targets. -/
def Tool.BringsFor (tool : Tool) (before after : List String) : Expansions :=
  fun wildcard members => ∃ earlier records, wildcard :: earlier <:+ after ∧ before <:+ earlier ∧
    (tool earlier wildcard).outcome = .ok records ∧
    members = (Records.canonical records.values).keys

/-- What wildcards were remembered to stand for at one moment, or were found to stand for in the runs
from then to another moment. -/
def Snapshot.expansionsUntil (tool : Tool) (s t : Snapshot) : Expansions := fun wildcard members =>
  s.cache.expansions wildcard members ∨
    tool.BringsFor (History.invoked s.journal) (History.invoked t.journal) wildcard members

/-- From one moment to another the tool was only run on, and nothing is remembered beside what was
remembered then or brought since. -/
structure Snapshot.Continues (tool : Tool) (s t : Snapshot) : Prop where
  runs : History.invoked s.journal <:+ History.invoked t.journal
  expansions : ∀ wildcard members, t.cache.expansions wildcard members →
    s.expansionsUntil tool t wildcard members

namespace Snapshot

variable {tool : Tool} {s t u : Snapshot} {wildcard : String} {members : List String}

theorem expansionsUntil_mono (longer : History.invoked t.journal <:+ History.invoked u.journal)
    (stands : s.expansionsUntil tool t wildcard members) :
    s.expansionsUntil tool u wildcard members := by
  rcases stands with before | ⟨earlier, records, ran, since, answered, keys⟩
  · exact .inl before
  · exact .inr ⟨earlier, records, ran.trans longer, since, answered, keys⟩

theorem Continues.of_wildcards (runs : History.invoked s.journal <:+ History.invoked t.journal)
    (old : ∀ wildcard members, t.cache.wildcards.get? wildcard = some members →
      s.cache.wildcards.get? wildcard = some members) : s.Continues tool t :=
  ⟨runs, fun wildcard members stands => .inl (old wildcard members stands)⟩

theorem Continues.refl (s : Snapshot) : s.Continues tool s :=
  .of_wildcards (List.suffix_refl _) fun _ _ stands => stands

theorem Continues.trans (first : s.Continues tool t) (second : t.Continues tool u) :
    s.Continues tool u where
  runs := first.runs.trans second.runs
  expansions wildcard members stands := by
    rcases second.expansions wildcard members stands with before | brought
    · exact expansionsUntil_mono second.runs (first.expansions wildcard members before)
    · obtain ⟨earlier, records, ran, since, answered, keys⟩ := brought
      exact .inr ⟨earlier, records, ran, first.runs.trans since, answered, keys⟩

end Snapshot

section Continuing

variable {σ : Type} {tool : Tool} {origin : Origin}

theorem World.invocations_suffix_ask (w : World σ) (target : String) :
    w.invocations <:+ (w.ask tool origin target).invocations := by
  rw [World.ask_invocations]
  split
  next => exact List.suffix_refl _
  next => exact List.suffix_cons _ _

theorem World.continues_learn (w : World σ) (target : String) (infos : List PackageInfo) :
    w.snapshot.Continues tool (w.learn tool origin target infos).snapshot := by
  refine .of_wildcards ?_ fun wildcard members stands => ?_
  · change w.invocations <:+ (w.learn tool origin target infos).invocations
    rw [World.learn_invocations]
    exact w.invocations_suffix_ask target
  · rw [World.snapshot, World.learn_cache] at stands
    exact stands

theorem World.continues_expanded {w : World σ} {wildcard : String} {records : Records}
    (answered : (tool w.invocations wildcard).outcome = .ok records) :
    w.snapshot.Continues tool ((w.learn tool origin wildcard records.values).remember wildcard
      (Records.canonical records.values).keys).snapshot := by
  have learned : w.snapshot.Continues tool (w.learn tool origin wildcard records.values).snapshot :=
    w.continues_learn wildcard records.values
  constructor
  case runs => exact learned.runs
  case expansions =>
    intro other members stands
    simp only [Cache.expansions, World.snapshot, World.remember, Cache.remember,
      OrderedMap.get?_insert] at stands
    split at stands
    next same =>
      subst same
      refine .inr ⟨w.invocations, records, ?_, List.suffix_refl _, answered, ?_⟩
      · have asked : (w.learn tool origin wildcard records.values).invocations =
            wildcard :: w.invocations := by
          rw [World.learn_invocations, World.ask_invocations, Resolve.lacksCommand_answered answered,
            if_neg Bool.false_ne_true]
        exact ⟨[], asked.symm⟩
      · exact (Option.some.inj stands).symm
    next => exact learned.expansions _ _ stands

theorem continues_resolving (s : Snapshot) :
    Resolve.Keeps tool fun w : World σ => s.Continues tool w.snapshot where
  idle w e idle continues := by
    refine continues.trans (.of_wildcards ?_ fun _ _ stands => stands)
    cases e with
    | stale | failed | told => exact List.suffix_refl _
    | hit | missed | invoked | produced | flushed | dropped => cases idle
  hit w origin target continues :=
    continues.trans (.of_wildcards (List.suffix_refl _) fun _ _ stands => stands)
  refused w origin target _ _ continues := by
    refine continues.trans (.of_wildcards (w.invocations_suffix_ask target) fun _ _ stands => ?_)
    rw [World.snapshot, World.ask_cache] at stands
    exact stands
  learned w origin target records _ continues :=
    continues.trans (w.continues_learn target records.values)
  expanded w origin wildcard records _ answered continues :=
    continues.trans (World.continues_expanded answered)

theorem continues_flush (w : World σ) : w.snapshot.Continues tool w.flush.snapshot :=
  .of_wildcards (List.suffix_refl _) fun _ _ stands => by cases stands

theorem continues_drop (w : World σ) (target : String) :
    w.snapshot.Continues tool (w.drop target).snapshot := by
  refine .of_wildcards (List.suffix_refl _) fun wildcard members stands => ?_
  simp only [World.snapshot, World.drop, Cache.drop, OrderedMap.get?_erase] at stands
  split at stands
  next => cases stands
  next => exact stands

theorem continues_operations (s : Snapshot) :
    Cache.Keeps tool fun w : World σ => s.Continues tool w.snapshot :=
  .of_resolving (continues_resolving s) (fun w continues => continues.trans (continues_flush w))
    fun w target continues => continues.trans (continues_drop w target)

theorem remembered_resolving (wildcard : String) (members : List String) :
    Resolve.Keeps tool fun w : World σ => w.cache.expansions wildcard members where
  idle _ _ _ remembered := remembered
  hit _ _ _ remembered := remembered
  refused w origin target _ _ remembered := by
    rw [World.ask_cache]
    exact remembered
  learned w origin target records _ remembered := by
    rw [World.learn_cache]
    exact remembered
  expanded w origin other records unknown _ remembered := by
    have differ : ¬other = wildcard := by
      rintro rfl
      rw [Cache.expansions, unknown] at remembered
      cases remembered
    simp only [Cache.expansions, World.remember, Cache.remember, World.learn_cache,
      OrderedMap.get?_insert, if_neg differ]
    exact remembered

end Continuing

theorem Snapshot.Reachable.continues {tool : Tool} {s : Snapshot} (reached : s.Reachable tool) :
    (⟨.empty, []⟩ : Snapshot).Continues tool s :=
  reached.keep_resolving (.refl _) (continues_resolving _)
    (fun w continues => continues.trans (continues_flush w))
    fun w target continues => continues.trans (continues_drop w target)

end WorkspaceImport
