import WorkspaceImport.Proofs.Cache.Turn
/-!
All that can happen while targets are resolved. A resolution is a chain of moves, whether it
succeeds or fails, and what a move does to the session is one of a few effects; so an invariant is
established by looking at the moves, or at the effects, one by one.
-/
namespace WorkspaceImport

def Event.isIdle : Event → Bool
  | .stale .. | .failed .. | .told _ => true
  | _ => false

def Tool.Expands (tool : Tool) (wildcard : String) (targets : List String) : Prop :=
  ∃ earlier records, (tool earlier wildcard).outcome = .ok records ∧
    targets = (Records.canonical records.values).keys

inductive Effect {σ : Type} (tool : Tool) : World σ → World σ → Prop where
  | idle {w : World σ} {e : Event} (idle : e.isIdle = true) : Effect tool w (w.log e)
  | hit {w : World σ} (origin : Origin) (target : String) : Effect tool w (w.hit origin target)
  | refused {w : World σ} (origin : Origin) {target : String} {f : Failure}
      (refused : (tool w.invocations target).outcome = .error f) :
      Effect tool w (w.ask tool origin target)
  | learned {w : World σ} (origin : Origin) {target : String} {records : Records}
      (answered : (tool w.invocations target).outcome = .ok records) :
      Effect tool w (w.learn tool origin target records.values)
  | remembered {w : World σ} {wildcard : String} {targets : List String}
      (some : targets ≠ []) (brought : tool.Expands wildcard targets)
      (known : ∀ target ∈ targets, w.cache.lastGood.contains target = true) :
      Effect tool w (w.remember wildcard targets)
  | flushed (w : World σ) : Effect tool w w.flush
  | dropped (w : World σ) (target : String) : Effect tool w (w.drop target)

/-- One move of a resolution. The last two are moves of the one who watches. -/
inductive Move {σ : Type} (tool : Tool) (monitor : Monitor σ) (origin : Origin) :
    Call σ → Call σ → Prop where
  | hit {c : Call σ} {target : String} {info : PackageInfo}
      (cached : c.world.cache.current.get? target = some info) :
      Move tool monitor origin c (c.hit origin target info)
  | refused {c : Call σ} {target : String} {f : Failure}
      (refused : (tool c.world.invocations target).outcome = .error f) :
      Move tool monitor origin c (c.ask tool origin target)
  | learned {c : Call σ} {target : String} {records : Records}
      (answered : (tool c.world.invocations target).outcome = .ok records) :
      Move tool monitor origin c (c.learn tool origin target records.values)
  | computed {c : Call σ} {targets : List String}
      (found : ∀ target ∈ targets, c.report.infos.contains target = true) :
      Move tool monitor origin c (c.addComputed targets)
  | remembered {c : Call σ} {wildcard : String} {targets : List String}
      (some : targets ≠ []) (brought : tool.Expands wildcard targets)
      (known : ∀ target ∈ targets, c.world.cache.lastGood.contains target = true) :
      Move tool monitor origin c (c.remember wildcard targets)
  | degraded {c : Call σ} {target : String} {info : PackageInfo}
      (known : c.world.cache.lastGood.get? target = some info) :
      Move tool monitor origin c (c.degrade origin target info)
  | missed {c : Call σ} {target : String}
      (unknown : c.world.cache.lastGood.get? target = none) :
      Move tool monitor origin c (c.miss origin target)
  | degradedAll {c : Call σ} {target : String} {label : Label}
      (read : Label.parse target = .ok label) :
      Move tool monitor origin c
        (c.degradeAll origin target (c.world.cache.staleOf label.package))
  | missedAll {c : Call σ} {target : String} {label : Label}
      (read : Label.parse target = .ok label)
      (none : (c.world.cache.staleOf label.package).isEmpty = true) :
      Move tool monitor origin c (c.miss origin target)
  | worked (c : Call σ) : Move tool monitor origin c
      { c with world := stateAfter (monitor.worked c.report.infos.size c.world) }
  | asked (c : Call σ) : Move tool monitor origin c
      { c with world := stateAfter (monitor.isCanceled c.world) }

abbrev Moves {σ : Type} (tool : Tool) (monitor : Monitor σ) (origin : Origin) :
    Call σ → Call σ → Prop :=
  Call.Chain (Move tool monitor origin)

def Action.Keeps {σ α : Type} (J : World σ → Prop) (a : Action σ α) : Prop :=
  ∀ w, J w → J (stateAfter (a w))

namespace Action

variable {σ α β : Type} {J : World σ → Prop} {a : Action σ α} {next : α → Action σ β}
  {w v : World σ}

theorem Keeps.ok {x : α} (kept : Keeps J a) (ran : a w = .ok x v) (start : J w) : J v := by
  have after := kept w start
  rw [ran] at after
  exact after

theorem Keeps.error {f : Failure} (kept : Keeps J a) (failed : a w = .error f v) (start : J w) :
    J v := by
  have after := kept w start
  rw [failed] at after
  exact after

theorem get_bind (next : World σ → Action σ β) (w : World σ) :
    ((get : Action σ (World σ)) >>= next) w = next w w :=
  rfl

theorem after_bind (failed : ∀ f v, a w = .error f v → J v)
    (went : ∀ x v, a w = .ok x v → J (stateAfter (next x v))) :
    J (stateAfter ((a >>= next) w)) := by
  change J (stateAfter (EStateM.bind a next w))
  rw [EStateM.bind]
  cases run : a w with
  | ok x v => exact went x v run
  | error f v => exact failed f v run

theorem Keeps.after_bind (first : J (stateAfter (a w))) (second : ∀ x, Keeps J (next x)) :
    J (stateAfter ((a >>= next) w)) := by
  refine Action.after_bind ?_ ?_
  · intro f v failed
    rw [failed] at first
    exact first
  · intro x v went
    rw [went] at first
    exact second x v first

theorem Keeps.bind (first : Keeps J a) (second : ∀ x, Keeps J (next x)) :
    Keeps J (a >>= next) :=
  fun w start => Keeps.after_bind (first w start) second

end Action

structure Monitor.Keeps {σ : Type} (monitor : Monitor σ) (J : World σ → Prop) : Prop where
  subTask : ∀ text, Action.Keeps J (monitor.subTask text)
  worked : ∀ units, Action.Keeps J (monitor.worked units)
  isCanceled : Action.Keeps J monitor.isCanceled

theorem Monitor.silent_keeps {σ : Type} (J : World σ → Prop) : (silent : Monitor σ).Keeps J :=
  ⟨fun _ _ start => start, fun _ _ start => start, fun _ start => start⟩

namespace Resolve

variable {σ : Type} (tool : Tool) (monitor : Monitor σ) (origin : Origin)

theorem contains_learn_infos (c : Call σ) (target : String) {infos : List PackageInfo}
    {found : String} (member : found ∈ (Records.canonical infos).keys) :
    (c.learn tool origin target infos).report.infos.contains found = true := by
  have present := OrderedMap.contains_iff_mem_keys.2 member
  simp only [Call.learn, Report.merge, OrderedMap.contains_update, present, Bool.true_or]

theorem contains_learn_lastGood (c : Call σ) (target : String) {infos : List PackageInfo}
    {found : String} (member : found ∈ (Records.canonical infos).keys) :
    (c.learn tool origin target infos).world.cache.lastGood.contains found = true := by
  have present := OrderedMap.contains_iff_mem_keys.2 member
  simp only [Call.learn, World.learn_cache, OrderedMap.contains_update, present, Bool.true_or]

theorem fallBack_move (c : Call σ) (target : String) :
    Move tool monitor origin c (c.fallBack origin target) := by
  unfold Call.fallBack
  cases known : c.world.cache.lastGood.get? target with
  | some info => exact .degraded known
  | none => exact .missed known

theorem fallBackPackage_move (c : Call σ) {target : String} {label : Label}
    (read : Label.parse target = .ok label) :
    Move tool monitor origin c (c.fallBackPackage origin target label.package) := by
  simp only [Call.fallBackPackage]
  split
  next none => exact .missedAll read none
  next some => exact .degradedAll read

theorem answerLiteral_moves {c : Call σ} {target : String} {records : Records}
    (answered : (tool c.world.invocations target).outcome = .ok records) :
    Moves tool monitor origin c (c.answerLiteral tool origin target records.values) := by
  have learned : Move tool monitor origin c _ := .learned answered
  simp only [Call.answerLiteral]
  split
  next found =>
    have computed : ∀ t ∈ [target],
        (c.learn tool origin target records.values).report.infos.contains t = true := by
      intro t member
      rw [List.mem_singleton.1 member]
      exact contains_learn_infos tool origin c target (OrderedMap.contains_iff_mem_keys.1 found)
    exact .tail (.single learned) (.computed computed)
  next =>
    split
    next => exact .single learned
    next => exact .tail (.single learned) (fallBack_move tool monitor origin _ target)

theorem answerWildcard_moves {c : Call σ} {target : String} {label : Label} {records : Records}
    (read : Label.parse target = .ok label)
    (answered : (tool c.world.invocations target).outcome = .ok records) :
    Moves tool monitor origin c
      (c.answerWildcard tool origin target label.package records.values) := by
  have learned : Move tool monitor origin c _ := .learned answered
  simp only [Call.answerWildcard]
  split
  next => exact .tail (.single learned) (fallBackPackage_move tool monitor origin _ read)
  next found =>
    have some := OrderedMap.keys_ne_nil found
    have remembered : Move tool monitor origin (c.learn tool origin target records.values) _ :=
      .remembered some ⟨_, records, answered, rfl⟩ fun _ member =>
        contains_learn_lastGood tool origin c target member
    have computed : ∀ t ∈ (Records.canonical records.values).keys,
        (c.learn tool origin target records.values).report.infos.contains t = true :=
      fun _ member => contains_learn_infos tool origin c target member
    exact .tail (.tail (.single learned) remembered) (.computed computed)

end Resolve

theorem Turn.moves {σ : Type} {tool : Tool} {monitor : Monitor σ} {origin : Origin} {c d : Call σ}
    (turn : Turn tool monitor origin c d) : Moves tool monitor origin c d := by
  cases turn with
  | hit cached => exact .single (.hit cached)
  | refused said => exact .single (.refused said)
  | literal _ said => exact Resolve.answerLiteral_moves tool monitor origin said
  | wildcard read _ _ said => exact Resolve.answerWildcard_moves tool monitor origin read said
  | worked => exact .single (.worked c)
  | asked => exact .single (.asked c)

theorem Turns.moves {σ : Type} {tool : Tool} {monitor : Monitor σ} {origin : Origin} {c d : Call σ}
    (turns : Turns tool monitor origin c d) : Moves tool monitor origin c d := by
  induction turns with
  | refl => exact .refl
  | tail _ turn ih => exact ih.trans turn.moves

section Keeping

variable {σ : Type} {tool : Tool} {monitor : Monitor σ} {origin : Origin} {J : World σ → Prop}

theorem keep_tell (effect : ∀ v v', Effect tool v v' → J v → J v') {w : World σ}
    (notes : List Note) (start : J w) : J (w.tell notes) := by
  induction notes generalizing w with
  | nil => exact start
  | cons note rest ih => exact ih (effect _ _ (.idle rfl) start)

theorem Move.keep (effect : ∀ v v', Effect tool v v' → J v → J v') (watched : monitor.Keeps J)
    {c d : Call σ} (move : Move tool monitor origin c d) (start : J c.world) : J d.world := by
  cases move with
  | hit _ => exact effect _ _ (.hit origin _) start
  | refused said => exact effect _ _ (.refused origin said) start
  | learned said => exact effect _ _ (.learned origin said) start
  | computed _ => exact start
  | remembered some brought known => exact effect _ _ (.remembered some brought known) start
  | degraded _ => exact effect _ _ (.idle rfl) start
  | missed _ => exact effect _ _ (.idle rfl) start
  | degradedAll _ => exact keep_tell effect _ start
  | missedAll _ _ => exact effect _ _ (.idle rfl) start
  | worked => exact watched.worked _ _ start
  | asked => exact watched.isCanceled _ start

theorem Moves.keep_world (effect : ∀ v v', Effect tool v v' → J v → J v')
    (watched : monitor.Keeps J) {c d : Call σ} (run : Moves tool monitor origin c d)
    (start : J c.world) : J d.world := by
  induction run with
  | refl => exact start
  | tail _ step ih => exact step.keep effect watched ih

/-- What a resolution does by itself leaves something as it was. It never makes the cache forget, and
an expansion is remembered with the run that brought it. -/
structure Resolve.Keeps (tool : Tool) (J : World σ → Prop) : Prop where
  idle : ∀ w (e : Event), e.isIdle = true → J w → J (w.log e)
  hit : ∀ w origin target, J w → J (w.hit origin target)
  refused : ∀ w origin target f, (tool w.invocations target).outcome = .error f → J w →
    J (w.ask tool origin target)
  learned : ∀ w origin target records, (tool w.invocations target).outcome = .ok records → J w →
    J (w.learn tool origin target records.values)
  expanded : ∀ w origin wildcard records, w.cache.wildcards.get? wildcard = none →
    (tool w.invocations wildcard).outcome = .ok records → J w →
      J ((w.learn tool origin wildcard records.values).remember wildcard
        (Records.canonical records.values).keys)

theorem Resolve.Keeps.tell (kept : Resolve.Keeps tool J) {w : World σ} (notes : List Note)
    (start : J w) : J (w.tell notes) := by
  induction notes generalizing w with
  | nil => exact start
  | cons note rest ih => exact ih (kept.idle w _ rfl start)

theorem Call.fallBack_world (c : Call σ) (origin : Origin) (target : String) :
    ∃ e : Event, e.isIdle = true ∧ (c.fallBack origin target).world = c.world.log e := by
  unfold fallBack
  split
  next => exact ⟨.stale target origin, rfl, rfl⟩
  next => exact ⟨.failed target origin, rfl, rfl⟩

theorem Call.fallBackPackage_world (c : Call σ) (origin : Origin) (target package : String) :
    ∃ e : Event, e.isIdle = true ∧
      (c.fallBackPackage origin target package).world = c.world.log e := by
  simp only [fallBackPackage]
  split
  next => exact ⟨.failed target origin, rfl, rfl⟩
  next => exact ⟨.told _, rfl, rfl⟩

theorem Turn.keep (kept : Resolve.Keeps tool J) (watched : monitor.Keeps J) {c d : Call σ}
    (turn : Turn tool monitor origin c d) (start : J c.world) : J d.world := by
  cases turn with
  | hit _ => exact kept.hit _ origin _ start
  | refused said => exact kept.refused _ origin _ _ said start
  | @literal target records _ said =>
    have learned := kept.learned _ origin target records said start
    simp only [Call.answerLiteral]
    split
    next => exact learned
    next =>
      split
      next => exact learned
      next =>
        obtain ⟨e, idle, same⟩ :=
          (c.learn tool origin target records.values).fallBack_world origin target
        rw [same]
        exact kept.idle _ e idle learned
  | @wildcard target label records _ _ unknown said =>
    simp only [Call.answerWildcard]
    split
    next =>
      obtain ⟨e, idle, same⟩ :=
        (c.learn tool origin target records.values).fallBackPackage_world origin target label.package
      rw [same]
      exact kept.idle _ e idle (kept.learned _ origin target records said start)
    next => exact kept.expanded _ origin target records unknown said start
  | worked => exact watched.worked _ _ start
  | asked => exact watched.isCanceled _ start

theorem Turns.keep_world (kept : Resolve.Keeps tool J) (watched : monitor.Keeps J) {c d : Call σ}
    (turns : Turns tool monitor origin c d) (start : J c.world) : J d.world :=
  turns.keep (I := fun c => J c.world) (fun _ _ turn => turn.keep kept watched) start

/-- What all that is told, the one who watches and the requested targets leave as it was, a resolution
leaves as it was. -/
theorem resolveWithReport_keep_of (told : ∀ (w : World σ) notes, J w → J (w.tell notes))
    (watched : monitor.Keeps J) {targets : List String} (requested : ∀ v, J v →
      J (stateAfter (Resolve.requests tool monitor origin targets ⟨.empty, v⟩)).world) :
    Action.Keeps J (Cache.resolveWithReport tool monitor origin targets) := by
  intro w start
  rw [Cache.resolveWithReport_eq]
  have begun := watched.subTask Cache.resolveTask w start
  cases first : monitor.subTask Cache.resolveTask w with
  | error f v =>
    rw [first] at begun
    exact begun
  | ok _ v =>
    rw [first] at begun
    simp only
    have resolved := requested v begun
    cases run : Resolve.requests tool monitor origin targets ⟨.empty, v⟩ with
    | error f c =>
      rw [run] at resolved
      exact resolved
    | ok _ c =>
      rw [run] at resolved
      have ended := watched.worked c.report.infos.size c.world resolved
      simp only
      cases last : monitor.worked c.report.infos.size c.world with
      | error f u =>
        rw [last] at ended
        exact ended
      | ok _ u =>
        rw [last] at ended
        exact told _ _ ended

theorem Resolve.Keeps.resolveWithReport (kept : Resolve.Keeps tool J) (watched : monitor.Keeps J)
    (targets : List String) : Action.Keeps J (Cache.resolveWithReport tool monitor origin targets) :=
  resolveWithReport_keep_of (fun _ notes => kept.tell notes) watched fun v begun =>
    (Resolve.requests_turns tool monitor origin targets ⟨.empty, v⟩).keep_world kept watched begun

theorem resolveWithReport_keep (effect : ∀ v v', Effect tool v v' → J v → J v')
    (watched : monitor.Keeps J) (targets : List String) :
    Action.Keeps J (Cache.resolveWithReport tool monitor origin targets) :=
  resolveWithReport_keep_of (fun _ => keep_tell effect) watched fun v begun =>
    (Resolve.requests_turns tool monitor origin targets ⟨.empty, v⟩).moves.keep_world effect watched
      begun

end Keeping

end WorkspaceImport
