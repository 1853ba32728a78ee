import WorkspaceImport.Proofs.Cache.History
/-!
Everybody who uses a cache. A usage is any sequence of operations, in which each may depend on all
that was seen before; operations may fail, and whoever is told of the progress of a resolution may
use the cache in turn. The states that a usage comes upon are written down at every event and after
every operation, and so is each of its operations that makes the cache forget. From these and the runs
of the tool follows what is remembered, without a look at what the cache did.
-/
namespace WorkspaceImport

/-- What somebody does with a cache. The answer at the end counts where it was asked whether to
cancel; failures of a resolution are handed to what comes after it, which may fail with them. -/
inductive Usage where
  | done (answer : Bool)
  | fail (f : Failure)
  | look (next : World (List Snapshot) → Usage)
  | tell (notes : List Note) (next : Usage)
  | flush (next : Usage)
  | flushFor (targets : List String) (next : Usage)
  | resolve (origin : Origin) (targets : List String) (subTask : String → Usage)
      (worked : Nat → Usage) (isCanceled : Usage) (next : Except Failure Report → Usage)

/-- What can be seen between two steps of a usage, and the operations before that made the cache
forget, newest first. -/
structure Sighting where
  snapshot : Snapshot
  operations : List Operation

/-- The changes that the runs of the tool and the operations before a moment bring about. -/
def Sighting.history (tool : Tool) (m : Sighting) : History :=
  History.ofOperations tool (History.invoked m.snapshot.journal) m.operations

/-- What a usage writes down of itself: its operations that made the cache forget, and the moments at
which there was something to be seen. -/
structure Account where
  operations : List Operation
  sightings : List Sighting

namespace World

def sighting (w : World Account) : Sighting :=
  ⟨w.snapshot, w.client.operations⟩

/-- What can be seen, now and at earlier moments. -/
def seen (w : World Account) : World (List Snapshot) :=
  ⟨w.cache, w.journal, w.client.sightings.map (·.snapshot)⟩

def noteForgetting (w : World Account) (forgetting : Forgetting) : World Account :=
  { w with client := { w.client with
      operations := ⟨w.invocations.length, forgetting⟩ :: w.client.operations } }

end World

def takeSnapshot : Action Account Unit :=
  modify fun w => { w with client := { w.client with sightings := w.sighting :: w.client.sightings } }

def forget (forgetting : Forgetting) : Action Account Unit := do
  modify fun w => w.noteForgetting forgetting
  match forgetting with
  | .all => Cache.flushAll
  | .only targets => Cache.flushFor targets

def attempt {σ α : Type} (a : Action σ α) : Action σ (Except Failure α) := fun w =>
  match a w with
  | .ok x v => .ok (.ok x) v
  | .error f v => .ok (.error f) v

namespace Usage

def run (tool : Tool) : Usage → Action Account Bool
  | .done answer => pure answer
  | .fail f => throw f
  | .look next => do (next (← get).seen).run tool
  | .tell notes next => do
    modify fun w => w.tell notes
    next.run tool
  | .flush next => do
    forget .all
    takeSnapshot
    next.run tool
  | .flushFor targets next => do
    forget (.only targets)
    takeSnapshot
    next.run tool
  | .resolve origin targets subTask worked isCanceled next => do
    let monitor : Monitor Account := {
      subTask := fun text => do
        takeSnapshot
        let _ ← (subTask text).run tool
      worked := fun units => do
        takeSnapshot
        let _ ← (worked units).run tool
      isCanceled := do
        takeSnapshot
        isCanceled.run tool }
    let outcome ← attempt (Cache.resolveWithReport tool monitor origin targets)
    takeSnapshot
    (next outcome).run tool

end Usage

theorem Effect.client_eq {σ : Type} {tool : Tool} {v w : World σ} (effect : Effect tool v w) :
    w.client = v.client := by
  cases effect with
  | idle | hit | remembered | flushed | dropped => rfl
  | refused origin _ => exact v.ask_client tool origin _
  | learned origin _ => rw [World.learn, World.foldl_produce_client, World.ask_client]

def Witnessed (I : Sighting → Prop) (w : World Account) : Prop :=
  I w.sighting ∧ ∀ m ∈ w.client.sightings, I m

section Keeping

variable {tool : Tool} {I : Sighting → Prop}

theorem takeSnapshot_keep : Action.Keeps (Witnessed I) takeSnapshot := by
  intro w ⟨now, earlier⟩
  refine ⟨now, ?_⟩
  intro m member
  rcases List.mem_cons.1 member with same | before
  · rw [same]
    exact now
  · exact earlier m before

theorem attempt_keep {σ α : Type} {J : World σ → Prop} {a : Action σ α} (kept : Action.Keeps J a) :
    Action.Keeps J (attempt a) := by
  intro w start
  have after := kept w start
  unfold attempt
  cases run : a w <;> (rw [run] at after; exact after)

theorem World.learn_client {σ : Type} {origin : Origin} (w : World σ) (target : String)
    (infos : List PackageInfo) : (w.learn tool origin target infos).client = w.client := by
  rw [World.learn, World.foldl_produce_client, World.ask_client]

theorem World.sighting_of_client {v w : World Account} (same : w.client = v.client) :
    w.sighting = ⟨w.snapshot, v.client.operations⟩ := by
  rw [World.sighting, same]

theorem witnessed_client {v w : World Account} (same : w.client = v.client)
    (now : I v.sighting → I ⟨w.snapshot, v.client.operations⟩) (start : Witnessed I v) :
    Witnessed I w := by
  rw [Witnessed, World.sighting_of_client same, same]
  exact ⟨now start.1, start.2⟩

theorem witnessed_effect {I : Snapshot → Prop}
    (effect : ∀ v v' : World Account, Effect tool v v' → I v.snapshot → I v'.snapshot)
    (v v' : World Account) (step : Effect tool v v')
    (start : Witnessed (fun m => I m.snapshot) v) : Witnessed (fun m => I m.snapshot) v' :=
  witnessed_client step.client_eq (effect v v' step) start

theorem flushFor_keep {σ : Type} {J : World σ → Prop}
    (dropped : ∀ w target, J w → J (World.drop w target)) (targets : List String) :
    Action.Keeps J (Cache.flushFor targets) := by
  intro w start
  change J (targets.foldl World.drop w)
  induction targets generalizing w with
  | nil => exact start
  | cons target rest ih => exact ih (w.drop target) (dropped w target start)

/-- All operations of a cache leave something as it was, if whoever watches does. -/
structure Cache.Keeps {σ : Type} (tool : Tool) (J : World σ → Prop) : Prop where
  told : ∀ w notes, J w → J (w.tell notes)
  flushed : ∀ w, J w → J w.flush
  dropped : ∀ w target, J w → J (w.drop target)
  resolved : ∀ monitor origin targets, monitor.Keeps J →
    Action.Keeps J (Cache.resolveWithReport tool monitor origin targets)

theorem Cache.Keeps.of_effect {σ : Type} {J : World σ → Prop}
    (effect : ∀ v v', Effect tool v v' → J v → J v') : Cache.Keeps tool J where
  told _ notes := keep_tell effect notes
  flushed w := effect _ _ (.flushed w)
  dropped w target := effect _ _ (.dropped w target)
  resolved _ _ targets watched := resolveWithReport_keep effect watched targets

theorem Cache.Keeps.of_resolving {σ : Type} {J : World σ → Prop} (kept : Resolve.Keeps tool J)
    (flushed : ∀ w, J w → J w.flush) (dropped : ∀ w target, J w → J (World.drop w target)) :
    Cache.Keeps tool J where
  told _ notes := kept.tell notes
  flushed := flushed
  dropped := dropped
  resolved _ _ targets watched := kept.resolveWithReport watched targets

theorem Resolve.Keeps.witnessed {I : Snapshot → Prop}
    (kept : Resolve.Keeps tool fun w : World Account => I w.snapshot) :
    Resolve.Keeps tool (Witnessed fun m => I m.snapshot) where
  idle w e idle := witnessed_client rfl (kept.idle w e idle)
  hit w origin target := witnessed_client rfl (kept.hit w origin target)
  refused w origin target f said :=
    witnessed_client (w.ask_client tool origin target) (kept.refused w origin target f said)
  learned w origin target records said :=
    witnessed_client (w.learn_client target records.values)
      (kept.learned w origin target records said)
  expanded w origin wildcard records unknown said :=
    witnessed_client (w.learn_client wildcard records.values)
      (kept.expanded w origin wildcard records unknown said)

/-- All that a usage does leaves something as it was, if whoever watches does. -/
structure Usage.Keeps (tool : Tool) (J : World Account → Prop) : Prop where
  told : ∀ w notes, J w → J (w.tell notes)
  forgot : ∀ forgetting, Action.Keeps J (forget forgetting)
  seen : Action.Keeps J takeSnapshot
  resolved : ∀ monitor origin targets, monitor.Keeps J →
    Action.Keeps J (Cache.resolveWithReport tool monitor origin targets)

theorem Cache.Keeps.usage {J : World Account → Prop} (kept : Cache.Keeps tool J)
    (noted : ∀ w forgetting, J w → J (w.noteForgetting forgetting)) (seen : Action.Keeps J takeSnapshot) :
    Usage.Keeps tool J where
  told := kept.told
  forgot forgetting := by
    refine .bind (fun w => noted w forgetting) fun _ => ?_
    cases forgetting with
    | all => exact kept.flushed
    | only targets => exact flushFor_keep kept.dropped targets
  seen := seen
  resolved := kept.resolved

theorem Usage.run_keep_world {J : World Account → Prop} (kept : Usage.Keeps tool J)
    (usage : Usage) : Action.Keeps J (usage.run tool) := by
  induction usage with
  | done answer => exact fun w start => start
  | fail f => exact fun w start => start
  | look next ih => exact .bind (fun w start => start) fun w => ih w.seen
  | tell notes next ih =>
    exact .bind (fun w => kept.told w notes) fun _ => ih
  | flush next ih =>
    exact .bind (kept.forgot .all) fun _ => .bind kept.seen fun _ => ih
  | flushFor targets next ih =>
    exact .bind (kept.forgot (.only targets)) fun _ => .bind kept.seen fun _ => ih
  | resolve origin targets subTask worked isCanceled next subTask_ih worked_ih isCanceled_ih ih =>
    refine .bind (attempt_keep (kept.resolved _ origin targets ?_)) fun outcome =>
      .bind kept.seen fun _ => ih outcome
    -- the one who watches is a usage itself
    exact {
      subTask := fun text => .bind kept.seen fun _ =>
        .bind (subTask_ih text) fun _ => fun w start => start
      worked := fun units => .bind kept.seen fun _ =>
        .bind (worked_ih units) fun _ => fun w start => start
      isCanceled := .bind kept.seen fun _ => isCanceled_ih }

end Keeping

/-- One who watches works with the session through the operations of the cache, with anybody watching
these in turn, and beside that touches only what it keeps for itself. -/
def Monitor.UsesCache {σ : Type} (tool : Tool) (monitor : Monitor σ) : Prop :=
  ∀ J : World σ → Prop, Cache.Keeps tool J → (∀ w own, J w → J { w with client := own }) →
    monitor.Keeps J

theorem Monitor.silent_usesCache {σ : Type} (tool : Tool) :
    (silent : Monitor σ).UsesCache tool :=
  fun J _ _ => silent_keeps J

def Usage.watching (tool : Tool) (subTask : String → Usage) (worked : Nat → Usage)
    (isCanceled : Usage) : Monitor Account where
  subTask text := do
    let _ ← (subTask text).run tool
  worked units := do
    let _ ← (worked units).run tool
  isCanceled := isCanceled.run tool

/-- One who answers every event with some usage of the same cache works with the session through it. -/
theorem Usage.watching_usesCache (tool : Tool) (subTask : String → Usage) (worked : Nat → Usage)
    (isCanceled : Usage) : (watching tool subTask worked isCanceled).UsesCache tool := by
  intro J kept own
  have through (usage : Usage) : Action.Keeps J (usage.run tool) :=
    run_keep_world (kept.usage (fun w _ => own w _) fun w => own w _) usage
  exact {
    subTask := fun text => .bind (through (subTask text)) fun _ _ start => start
    worked := fun units => .bind (through (worked units)) fun _ _ start => start
    isCanceled := through isCanceled }

namespace Usage

/-- A session that has just begun. -/
def beginning : World (List Snapshot) :=
  ⟨.empty, [], [⟨.empty, []⟩]⟩

def opening : World Account :=
  ⟨.empty, [], ⟨[], [⟨⟨.empty, []⟩, []⟩]⟩⟩

def closing (tool : Tool) (usage : Usage) : World Account :=
  stateAfter (usage.run tool opening)

/-- The session when a usage of a new cache has ended. -/
def ending (tool : Tool) (usage : Usage) : World (List Snapshot) :=
  (usage.closing tool).seen

/-- The moments of a usage of a new cache, newest first. -/
def sightings (tool : Tool) (usage : Usage) : List Sighting :=
  (usage.closing tool).sighting :: (usage.closing tool).client.sightings

/-- All that a usage of a new cache comes upon, newest first: the state at the end, after every
operation, at every event of a resolution and at the beginning. -/
def snapshots (tool : Tool) (usage : Usage) : List Snapshot :=
  (usage.ending tool).snapshot :: (usage.ending tool).client

end Usage

/-- What a usage of a new cache can come upon. -/
def Snapshot.Reachable (tool : Tool) (s : Snapshot) : Prop :=
  ∃ usage : Usage, s ∈ usage.snapshots tool

theorem Usage.sightings_keep {tool : Tool} {I : Sighting → Prop} (start : I opening.sighting)
    (kept : Usage.Keeps tool (Witnessed I)) (usage : Usage) : ∀ m ∈ usage.sightings tool, I m := by
  intro m member
  have begun : Witnessed I Usage.opening := by
    refine ⟨start, ?_⟩
    intro m first
    rw [List.mem_singleton.1 first]
    exact start
  have ended : Witnessed I (usage.closing tool) := run_keep_world kept usage opening begun
  rcases List.mem_cons.1 member with last | earlier
  · rw [last]
    exact ended.1
  · exact ended.2 m earlier

theorem Usage.snapshots_keep {tool : Tool} {I : Snapshot → Prop} (start : I ⟨.empty, []⟩)
    (kept : Cache.Keeps tool (Witnessed fun m => I m.snapshot)) (usage : Usage) :
    ∀ s ∈ usage.snapshots tool, I s := by
  intro s member
  obtain ⟨m, among, rfl⟩ := List.mem_map.1 (show s ∈ (usage.sightings tool).map (·.snapshot) from member)
  exact usage.sightings_keep (I := fun m => I m.snapshot) start
    (kept.usage (fun _ _ same => same) takeSnapshot_keep) m among

theorem Snapshot.Reachable.keep {tool : Tool} {I : Snapshot → Prop} (start : I ⟨.empty, []⟩)
    (effect : ∀ v v' : World Account, Effect tool v v' → I v.snapshot → I v'.snapshot)
    {s : Snapshot} (reached : s.Reachable tool) : I s := by
  obtain ⟨usage, member⟩ := reached
  exact usage.snapshots_keep start (.of_effect (witnessed_effect effect)) s member

theorem Snapshot.Reachable.keep_resolving {tool : Tool} {I : Snapshot → Prop} (start : I ⟨.empty, []⟩)
    (kept : Resolve.Keeps tool fun w : World Account => I w.snapshot)
    (flushed : ∀ w : World Account, I w.snapshot → I w.flush.snapshot)
    (dropped : ∀ (w : World Account) target, I w.snapshot → I (w.drop target).snapshot)
    {s : Snapshot} (reached : s.Reachable tool) : I s := by
  obtain ⟨usage, member⟩ := reached
  refine usage.snapshots_keep start (.of_resolving kept.witnessed ?_ ?_) s member
  · exact fun w => witnessed_client rfl (flushed w)
  · exact fun w target => witnessed_client rfl (dropped w target)

theorem Usage.ending_reachable (tool : Tool) (usage : Usage) :
    (usage.ending tool).snapshot.Reachable tool :=
  ⟨usage, List.mem_cons_self⟩

theorem Snapshot.Reachable.recalls {tool : Tool} {s : Snapshot} (reached : s.Reachable tool) :
    s.Recalls tool :=
  reached.keep ⟨rfl, rfl⟩ fun _ _ effect => effect.recalls

/-- The journal tells what the runs of the tool and the operations of the usage bring about, and no
operation was done after more runs than there are. -/
structure Sighting.Accounted (tool : Tool) (m : Sighting) : Prop where
  history : History.ofJournal tool m.snapshot.journal = m.history tool
  past : ∀ o ∈ m.operations, o.runs ≤ (History.invoked m.snapshot.journal).length

namespace Sighting.Accounted

variable {tool : Tool} {s t : Snapshot} {operations : List Operation}

theorem idle (accounted : Accounted tool ⟨s, operations⟩)
    (same : History.ofJournal tool t.journal = History.ofJournal tool s.journal)
    (runs : History.invoked t.journal = History.invoked s.journal) :
    Accounted tool ⟨t, operations⟩ where
  history := by rw [Sighting.history, same, runs, accounted.history, Sighting.history]
  past := by
    rw [runs]
    exact accounted.past

theorem ran (accounted : Accounted tool ⟨s, operations⟩) {target : String}
    (loaded : History.ofJournal tool t.journal =
      History.ofRun tool (History.invoked s.journal) target ++ History.ofJournal tool s.journal)
    (runs : History.invoked t.journal = target :: History.invoked s.journal) :
    Accounted tool ⟨t, operations⟩ where
  history := by
    rw [Sighting.history, loaded, runs, accounted.history, Sighting.history,
      History.ofOperations_cons_run accounted.past]
  past o member := by
    rw [runs]
    exact (accounted.past o member).trans (Nat.le_succ _)

theorem forgot (accounted : Accounted tool ⟨s, operations⟩) {forgetting : Forgetting}
    (changed : History.ofJournal tool t.journal =
      forgetting.changes ++ History.ofJournal tool s.journal)
    (runs : History.invoked t.journal = History.invoked s.journal) :
    Accounted tool ⟨t, ⟨(History.invoked s.journal).length, forgetting⟩ :: operations⟩ where
  history := by
    rw [Sighting.history, changed, runs, accounted.history, Sighting.history,
      History.ofOperations_cons_operation]
  past o member := by
    rw [runs]
    rcases List.mem_cons.1 member with rfl | before
    · exact Nat.le_refl _
    · exact accounted.past o before

end Sighting.Accounted

section Account

variable {tool : Tool}

theorem World.accounted_ask {w : World Account} {origin : Origin} (target : String)
    (accounted : w.sighting.Accounted tool) :
    Sighting.Accounted tool ⟨(w.ask tool origin target).snapshot, w.client.operations⟩ := by
  have runs := World.ask_invocations tool origin w target
  cases lacking : (tool w.invocations target).lacksCommand with
  | true =>
    rw [lacking, if_pos rfl] at runs
    refine accounted.idle ?_ runs
    cases said : (tool w.invocations target).outcome with
    | ok records =>
      rw [Resolve.lacksCommand_answered said] at lacking
      cases lacking
    | error f =>
      change History.ofJournal tool (w.ask tool origin target).journal = _
      rw [World.history_ask, said]
      rfl
  | false =>
    rw [lacking, if_neg Bool.false_ne_true] at runs
    exact accounted.ran (World.history_ask_run w target) runs

theorem Witnessed.accounted_learn {w : World Account} {origin : Origin} (target : String)
    (infos : List PackageInfo) (start : Witnessed (Sighting.Accounted tool) w) :
    Witnessed (Sighting.Accounted tool) (w.learn tool origin target infos) := by
  refine witnessed_client (w.learn_client target infos) (fun accounted => ?_) start
  exact (World.accounted_ask target accounted).idle (World.history_foldl_produce _ _)
    (World.learn_invocations tool origin w target infos)

theorem accounted_resolving : Resolve.Keeps tool (Witnessed (Sighting.Accounted tool)) where
  idle w e idle := by
    refine witnessed_client rfl fun accounted => accounted.idle ?_ ?_
    all_goals cases e with
    | stale | failed | told => rfl
    | hit | missed | invoked | produced | flushed | dropped => cases idle
  hit w origin target := witnessed_client rfl fun accounted => accounted.idle rfl rfl
  refused w origin target _ _ :=
    witnessed_client (w.ask_client tool origin target) fun accounted =>
      World.accounted_ask target accounted
  learned _ _ target records _ := Witnessed.accounted_learn target records.values
  expanded w origin wildcard records _ _ start :=
    witnessed_client (v := w.learn tool origin wildcard records.values) rfl
      (fun accounted => accounted.idle rfl rfl) (start.accounted_learn wildcard records.values)

theorem accounted_forget (forgetting : Forgetting) :
    Action.Keeps (Witnessed (Sighting.Accounted tool)) (forget forgetting) := by
  intro w ⟨now, earlier⟩
  cases forgetting with
  | all => exact ⟨now.forgot rfl rfl, earlier⟩
  | only targets =>
    change Witnessed _ (targets.foldl World.drop (w.noteForgetting (.only targets)))
    have kept := World.foldl_drop_client targets (w.noteForgetting (.only targets))
    rw [Witnessed, World.sighting_of_client kept, kept]
    exact ⟨now.forgot (World.history_foldl_drop targets _) (World.foldl_drop_invocations targets _),
      earlier⟩

theorem Usage.sightings_accounted (tool : Tool) (usage : Usage) :
    ∀ m ∈ usage.sightings tool, m.Accounted tool :=
  usage.sightings_keep ⟨rfl, nofun⟩ {
    told := fun _ notes => accounted_resolving.tell notes
    forgot := accounted_forget
    seen := takeSnapshot_keep
    resolved := fun _ _ targets watched => accounted_resolving.resolveWithReport watched targets }

end Account

/-- At every moment of every usage, what is remembered for a target is the last record that a run of
the tool loaded for it since the usage last made the cache forget it, in whatever spelling, or ever.
Where nothing was loaded or forgotten in between, both maps are as they were: hits, fallbacks and
failures leave no trace in them. The journal tells of nothing else. -/
theorem Usage.snapshots_eq_history (tool : Tool) (usage : Usage) :
    (usage.sightings tool).map (·.snapshot) = usage.snapshots tool ∧
    ∀ m ∈ usage.sightings tool,
      let history := m.history tool
      (∀ target, m.snapshot.cache.current.get? target =
        (History.recordsOf target (History.sinceForgotten target history)).head?) ∧
      (∀ target, m.snapshot.cache.lastGood.get? target =
        (History.recordsOf target history).head?) ∧
      (∀ n ∈ usage.sightings tool, n.history tool = history →
        n.snapshot.cache.current = m.snapshot.cache.current ∧
        n.snapshot.cache.lastGood = m.snapshot.cache.lastGood) ∧
      History.ofJournal tool m.snapshot.journal = history := by
  refine ⟨rfl, ?_⟩
  have recalls (m : Sighting) (member : m ∈ usage.sightings tool) :
      m.snapshot.cache.current = (m.history tool).current ∧
        m.snapshot.cache.lastGood = (m.history tool).lastGood := by
    have recalled : m.snapshot.Recalls tool :=
      Snapshot.Reachable.recalls ⟨usage, List.mem_map_of_mem member⟩
    rw [← (usage.sightings_accounted tool m member).history]
    exact ⟨recalled.current, recalled.lastGood⟩
  intro m member history
  obtain ⟨current, lastGood⟩ := recalls m member
  refine ⟨?_, ?_, ?_, (usage.sightings_accounted tool m member).history⟩
  · intro target
    rw [current, History.get?_current]
  · intro target
    rw [lastGood, History.get?_lastGood]
  · intro n other same
    obtain ⟨current', lastGood'⟩ := recalls n other
    rw [current', lastGood', current, lastGood, same]
    exact ⟨rfl, rfl⟩

/-- A tool that knows one target and fails for another. The record tells which runs there were
before. -/
def Tool.sample : Tool := fun earlier target =>
  if target = "//a:a" then
    ⟨[], .ok (Records.ofInfos [⟨"//a", earlier, [], [], "java_library", "a/BUILD"⟩])⟩
  else if target = "//broken:broken" then ⟨[], .error (.invocation (.refused (.said "")) .empty)⟩
  else ⟨[], .ok .empty⟩

/-- A target is resolved while everything is forgotten at every event, then again while that target
is forgotten under another spelling, and then twice more. -/
def Usage.sample : Usage :=
  .resolve default ["//a", "//b:c"] (fun _ => .done false) (fun _ => .flush (.done false))
    (.done false) fun _ => .resolve default ["//a"] (fun _ => .done false)
      (fun _ => .flushFor ["//a"] (.done false)) (.done false) fun _ =>
        .resolve default ["//a", "//a"] (fun _ => .done false)
          (fun _ => .done false) (.done false) fun _ => .done true

theorem Usage.snapshots_eq_history_sample :
    ∃ m ∈ sample.sightings Tool.sample, ∃ n ∈ sample.sightings Tool.sample,
    ∃ k ∈ sample.sightings Tool.sample,
      m.operations.map (·.forgetting) = [.only ["//a"], .only ["//a"], .all, .all, .all] ∧
      m.snapshot.cache.current.get? "//a:a" = none ∧
      (m.snapshot.cache.lastGood.get? "//a:a").map (·.sources) = some ["//b:c", "//a:a"] ∧
      (m.snapshot.cache.current.get? "//a:a" = (History.recordsOf "//a:a"
        (History.sinceForgotten "//a:a" (m.history Tool.sample))).head? ∧
      m.snapshot.cache.lastGood.get? "//a:a" = (History.recordsOf "//a:a"
        (m.history Tool.sample)).head?) ∧
      n.snapshot.journal.length < k.snapshot.journal.length ∧
      n.snapshot.cache.current = k.snapshot.cache.current := by
  have law := (snapshots_eq_history Tool.sample sample).2
  have dropped := List.get_mem (sample.sightings Tool.sample) ⟨9, by decide +kernel⟩
  have beforeHit := List.get_mem (sample.sightings Tool.sample) ⟨4, by decide +kernel⟩
  have last := List.get_mem (sample.sightings Tool.sample) ⟨0, by decide +kernel⟩
  refine ⟨_, dropped, _, beforeHit, _, last, ?_⟩
  refine ⟨by decide +kernel, by decide +kernel, by decide +kernel,
    ⟨(law _ dropped).1 "//a:a", (law _ dropped).2.1 "//a:a"⟩, by decide +kernel, ?_⟩
  exact ((law _ last).2.2.1 _ beforeHit (by decide +kernel)).1

end WorkspaceImport
