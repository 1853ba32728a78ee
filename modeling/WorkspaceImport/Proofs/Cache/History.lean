import WorkspaceImport.Proofs.Cache.Move
/-!
The cache as a function of its history. The journal of a session, together with the answers of the
tool, tells what was loaded, flushed and dropped; what is remembered for a target is the last record
that was loaded for it, since the last flush or drop of it or ever. This holds for everybody who uses
the cache, also from within the resolutions of others, and at every moment that they can see.

The same history is told by the operations of those who use the cache, when it is known of each that
made the cache forget how often the tool had been run before it.
-/
namespace WorkspaceImport

inductive Change where
  | loaded (infos : List PackageInfo)
  | flushed
  | dropped (target : String)
  deriving DecidableEq

namespace Change

def forgets (target : String) : Change → Bool
  | .loaded _ => false
  | .flushed => true
  | .dropped other => other == target

/-- The records that a change brought for a target, newest first. -/
def records (target : String) : Change → List PackageInfo
  | .loaded infos => (infos.filter fun info => canonicalLabel info.label = target).reverse
  | _ => []

theorem mem_records {infos : List PackageInfo} {info : PackageInfo} (member : info ∈ infos) :
    info ∈ records (canonicalLabel info.label) (.loaded infos) :=
  List.mem_reverse.2 (List.mem_filter.2 ⟨member, decide_eq_true rfl⟩)

end Change

abbrev History := List Change

inductive Forgetting where
  | all
  | only (targets : List String)
  deriving DecidableEq

def Forgetting.changes : Forgetting → History
  | .all => [.flushed]
  | .only targets => (targets.map fun target => .dropped (canonicalLabel target)).reverse

/-- An operation that made the cache forget, after so many runs of the tool. -/
structure Operation where
  runs : Nat
  forgetting : Forgetting
  deriving DecidableEq

namespace History

def invoked (journal : List Event) : List String :=
  journal.filterMap fun e => match e with | .invoked target => some target | _ => none

/-- The changes of which a journal tells, where the tool answers what it answered then. A run that
failed changes nothing. -/
def ofJournal (tool : Tool) : List Event → History
  | [] => []
  | .invoked target :: earlier =>
    match (tool (invoked earlier) target).outcome with
    | .ok records => .loaded records.values :: ofJournal tool earlier
    | .error _ => ofJournal tool earlier
  | .flushed :: earlier => .flushed :: ofJournal tool earlier
  | .dropped target :: earlier => .dropped target :: ofJournal tool earlier
  | _ :: earlier => ofJournal tool earlier

def ofRun (tool : Tool) (earlier : List String) (target : String) : History :=
  match (tool earlier target).outcome with
  | .ok records => [.loaded records.values]
  | .error _ => []

/-- What the runs loaded that were done after the first ones; runs stand newest first. -/
def ofRuns (tool : Tool) (first : Nat) : List String → History
  | [] => []
  | target :: earlier =>
    if earlier.length < first then [] else ofRun tool earlier target ++ ofRuns tool first earlier

/-- The changes that runs of the tool and operations bring about, both newest first. -/
def ofOperations (tool : Tool) (runs : List String) : List Operation → History
  | [] => ofRuns tool 0 runs
  | o :: before =>
    ofRuns tool o.runs runs ++ o.forgetting.changes ++
      ofOperations tool (runs.drop (runs.length - o.runs)) before

/-- All records that were ever loaded for a target, newest first. -/
def recordsOf (target : String) (history : History) : List PackageInfo :=
  history.flatMap (Change.records target)

/-- The changes after the last one that made the cache forget a target. -/
def sinceForgotten (target : String) (history : History) : History :=
  history.takeWhile fun change => !change.forgets target

def current : History → Records
  | [] => .empty
  | .loaded infos :: earlier => (current earlier).update (Records.canonical infos)
  | .flushed :: _ => .empty
  | .dropped target :: earlier => (current earlier).erase target

def lastGood : History → Records
  | [] => .empty
  | .loaded infos :: earlier => (lastGood earlier).update (Records.canonical infos)
  | .flushed :: earlier | .dropped _ :: earlier => lastGood earlier

theorem ofRuns_length (tool : Tool) (runs : List String) : ofRuns tool runs.length runs = [] := by
  cases runs with
  | nil => rfl
  | cons target earlier => exact if_pos (Nat.lt_succ_self _)

theorem ofOperations_cons_run {tool : Tool} {runs : List String} {operations : List Operation}
    (past : ∀ o ∈ operations, o.runs ≤ runs.length) (target : String) :
    ofOperations tool (target :: runs) operations =
      ofRun tool runs target ++ ofOperations tool runs operations := by
  cases operations with
  | nil => simp only [ofOperations, ofRuns, Nat.not_lt_zero, if_false]
  | cons o before =>
    have bound : o.runs ≤ runs.length := past o List.mem_cons_self
    have first : (target :: runs).drop ((target :: runs).length - o.runs) =
        runs.drop (runs.length - o.runs) := by
      rw [List.length_cons, Nat.succ_sub bound, List.drop_succ_cons]
    simp only [ofOperations, first, ofRuns, if_neg (Nat.not_lt.2 bound), List.append_assoc]

theorem ofOperations_cons_operation (tool : Tool) (runs : List String) (forgetting : Forgetting)
    (operations : List Operation) :
    ofOperations tool runs (⟨runs.length, forgetting⟩ :: operations) =
      forgetting.changes ++ ofOperations tool runs operations := by
  simp only [ofOperations, ofRuns_length, Nat.sub_self, List.drop_zero, List.nil_append]

theorem get?_canonical (infos : List PackageInfo) (target : String) :
    (Records.canonical infos).get? target = (Change.records target (.loaded infos)).head? := by
  rw [Records.canonical, OrderedMap.get?_ofList_own, Change.records, List.head?_reverse]

theorem recordsOf_cons (target : String) (change : Change) (earlier : History) :
    recordsOf target (change :: earlier) = change.records target ++ recordsOf target earlier :=
  List.flatMap_cons

theorem sinceForgotten_cons (target : String) (change : Change) (earlier : History) :
    sinceForgotten target (change :: earlier) =
      if change.forgets target then [] else change :: sinceForgotten target earlier := by
  rw [sinceForgotten, List.takeWhile_cons]
  cases change.forgets target <;> rfl

theorem get?_current (history : History) (target : String) :
    history.current.get? target = (recordsOf target (sinceForgotten target history)).head? := by
  induction history with
  | nil => rfl
  | cons change earlier ih =>
    rw [sinceForgotten_cons]
    cases change with
    | loaded infos =>
      rw [current, OrderedMap.get?_update, get?_canonical, ih, Change.forgets,
        if_neg Bool.false_ne_true, recordsOf_cons, List.head?_append]
    | flushed => rfl
    | dropped other =>
      rw [current, OrderedMap.get?_erase, ih, Change.forgets]
      by_cases same : other = target
      · rw [if_pos same, if_pos (beq_iff_eq.2 same)]
        rfl
      · rw [if_neg same, if_neg (by simpa using same), recordsOf_cons]
        rfl

theorem get?_lastGood (history : History) (target : String) :
    history.lastGood.get? target = (recordsOf target history).head? := by
  induction history with
  | nil => rfl
  | cons change earlier ih =>
    rw [recordsOf_cons]
    cases change with
    | loaded infos =>
      rw [lastGood, OrderedMap.get?_update, get?_canonical, ih, List.head?_append]
    | flushed => exact ih
    | dropped _ => exact ih

theorem loaded_mem {tool : Tool} {journal : List Event} {target : String} {runs : List String}
    {records : Records} (ran : target :: runs <:+ invoked journal)
    (answered : (tool runs target).outcome = .ok records) :
    Change.loaded records.values ∈ ofJournal tool journal := by
  induction journal with
  | nil => cases List.suffix_nil.1 ran
  | cons e earlier ih =>
    cases e with
    | invoked other =>
      rw [ofJournal]
      rcases List.suffix_cons_iff.1 ran with last | before
      · obtain ⟨rfl, same⟩ := List.cons.inj last
        have before : runs = invoked earlier := same
        rw [← before, answered]
        exact List.mem_cons_self
      · split
        next => exact List.mem_cons_of_mem _ (ih before)
        next => exact ih before
    | flushed | dropped => exact List.mem_cons_of_mem _ (ih ran)
    | hit | missed | produced | stale | failed | told => exact ih ran

theorem contains_lastGood {history : History} {infos : List PackageInfo}
    (loaded : .loaded infos ∈ history) {info : PackageInfo} (member : info ∈ infos) :
    history.lastGood.contains (canonicalLabel info.label) = true := by
  have among : info ∈ recordsOf (canonicalLabel info.label) history := by
    exact List.mem_flatMap.2 ⟨_, loaded, Change.mem_records member⟩
  rw [OrderedMap.contains, get?_lastGood, List.isSome_head?]
  simpa using List.ne_nil_of_mem among

end History

/-- What can be seen of a session between two steps of it. -/
structure Snapshot where
  cache : Cache
  journal : List Event

def World.snapshot {σ : Type} (w : World σ) : Snapshot :=
  ⟨w.cache, w.journal⟩

structure Snapshot.Recalls (tool : Tool) (s : Snapshot) : Prop where
  current : s.cache.current = (History.ofJournal tool s.journal).current
  lastGood : s.cache.lastGood = (History.ofJournal tool s.journal).lastGood

namespace World

variable {σ : Type} {tool : Tool} {origin : Origin}

theorem history_tell (w : World σ) (notes : List Note) :
    History.ofJournal tool (w.tell notes).journal = History.ofJournal tool w.journal := by
  induction notes generalizing w with
  | nil => rfl
  | cons note rest ih => exact ih (w.log (.told note))

theorem history_foldl_produce (infos : List PackageInfo) (w : World σ) :
    History.ofJournal tool (infos.foldl (produce origin) w).journal =
      History.ofJournal tool w.journal := by
  induction infos generalizing w with
  | nil => rfl
  | cons info rest ih => exact ih (w.produce origin info)

theorem history_ask (w : World σ) (target : String) :
    History.ofJournal tool (w.ask tool origin target).journal =
      match (tool w.invocations target).outcome with
      | .ok records => .loaded records.values :: History.ofJournal tool w.journal
      | .error _ => History.ofJournal tool w.journal := by
  rw [ask, history_tell]
  split
  next lacking =>
    cases said : (tool w.invocations target).outcome with
    | ok records =>
      rw [Resolve.lacksCommand_answered said] at lacking
      cases lacking
    | error f => rfl
  next => rfl

theorem history_ask_run (w : World σ) (target : String) :
    History.ofJournal tool (w.ask tool origin target).journal =
      History.ofRun tool w.invocations target ++ History.ofJournal tool w.journal := by
  rw [history_ask, History.ofRun]
  split <;> rfl

theorem history_learn {w : World σ} {target : String} {records : Records}
    (answered : (tool w.invocations target).outcome = .ok records) :
    History.ofJournal tool (w.learn tool origin target records.values).journal =
      .loaded records.values :: History.ofJournal tool w.journal := by
  rw [learn, history_foldl_produce, history_ask, answered]

theorem history_foldl_drop (targets : List String) (w : World σ) :
    History.ofJournal tool (targets.foldl drop w).journal =
      (Forgetting.only targets).changes ++ History.ofJournal tool w.journal := by
  induction targets generalizing w with
  | nil => rfl
  | cons target rest ih =>
    rw [List.foldl_cons, ih]
    simp only [Forgetting.changes, List.map_cons, List.reverse_cons, List.append_assoc]
    rfl

theorem foldl_drop_invocations (targets : List String) (w : World σ) :
    (targets.foldl drop w).invocations = w.invocations := by
  induction targets generalizing w with
  | nil => rfl
  | cons target rest ih => exact ih (w.drop target)

theorem foldl_drop_client (targets : List String) (w : World σ) :
    (targets.foldl drop w).client = w.client := by
  induction targets generalizing w with
  | nil => rfl
  | cons target rest ih => exact ih (w.drop target)

end World

theorem Effect.recalls {σ : Type} {tool : Tool} {v w : World σ} (effect : Effect tool v w)
    (earlier : v.snapshot.Recalls tool) : w.snapshot.Recalls tool := by
  obtain ⟨current, lastGood⟩ := earlier
  simp only [World.snapshot] at current lastGood
  cases effect with
  | @idle e idle =>
    have same : History.ofJournal tool (e :: v.journal) = History.ofJournal tool v.journal := by
      cases e with
      | stale | failed | told => rfl
      | hit | missed | invoked | produced | flushed | dropped => cases idle
    exact ⟨by rw [World.snapshot, World.log, same]; exact current,
      by rw [World.snapshot, World.log, same]; exact lastGood⟩
  | hit origin target => exact ⟨current, lastGood⟩
  | refused origin said =>
    constructor
    · simp only [World.snapshot, World.ask_cache, World.history_ask, said]
      exact current
    · simp only [World.snapshot, World.ask_cache, World.history_ask, said]
      exact lastGood
  | learned origin said =>
    constructor
    · simp only [World.snapshot, World.learn_cache, World.history_learn said, History.current,
        current]
    · simp only [World.snapshot, World.learn_cache, World.history_learn said, History.lastGood,
        lastGood]
  | remembered _ _ _ => exact ⟨current, lastGood⟩
  | flushed => exact ⟨rfl, lastGood⟩
  | dropped target =>
    constructor
    · simp only [World.snapshot, World.drop, World.log, Cache.drop, History.ofJournal,
        History.current, current]
    · exact lastGood

end WorkspaceImport
