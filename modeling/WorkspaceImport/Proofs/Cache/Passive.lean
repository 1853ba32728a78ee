import WorkspaceImport.Proofs.Cache.Settled
/-!
Resolutions with which nobody interferes. One who watches passively lets every announcement return
and leaves the cache and the runs of the tool alone; it may keep what it was told, and it may cancel.
-/
namespace WorkspaceImport

/-- Two sessions with the same cache and the same runs of the tool. -/
structure World.Alike {σ : Type} (v w : World σ) : Prop where
  cache : v.cache = w.cache
  invocations : v.invocations = w.invocations

structure Monitor.Passive {σ : Type} (monitor : Monitor σ) : Prop where
  subTask : ∀ text w, ∃ v, monitor.subTask text w = .ok () v ∧ v.Alike w
  worked : ∀ units w, ∃ v, monitor.worked units w = .ok () v ∧ v.Alike w
  isCanceled : ∀ w, ∃ canceled v, monitor.isCanceled w = .ok canceled v ∧ v.Alike w

/-- One who watches passively and never cancels. -/
structure Monitor.Patient {σ : Type} (monitor : Monitor σ) : Prop extends monitor.Passive where
  goesOn : ∀ w canceled v, monitor.isCanceled w = .ok canceled v → canceled = false

namespace World.Alike

variable {σ : Type} {tool : Tool} {origin : Origin} {u v w : World σ}

theorem refl (w : World σ) : w.Alike w :=
  ⟨rfl, rfl⟩

theorem symm (alike : v.Alike w) : w.Alike v :=
  ⟨alike.cache.symm, alike.invocations.symm⟩

theorem trans (first : u.Alike v) (second : v.Alike w) : u.Alike w :=
  ⟨first.cache.trans second.cache, first.invocations.trans second.invocations⟩

theorem tell (w : World σ) (notes : List Note) : (w.tell notes).Alike w :=
  ⟨w.tell_cache notes, w.tell_invocations notes⟩

theorem learn (alike : v.Alike w) (target : String) (infos : List PackageInfo) :
    (v.learn tool origin target infos).Alike (w.learn tool origin target infos) where
  cache := by rw [World.learn_cache, World.learn_cache, alike.cache]
  invocations := by
    rw [World.learn_invocations, World.learn_invocations, World.ask_invocations,
      World.ask_invocations, alike.invocations]

theorem hit (alike : v.Alike w) (target : String) :
    (v.hit origin target).Alike (w.hit origin target) where
  cache := congrArg Cache.countHit alike.cache
  invocations := alike.invocations

theorem remember (alike : v.Alike w) (wildcard : String) (targets : List String) :
    (v.remember wildcard targets).Alike (w.remember wildcard targets) where
  cache := congrArg (·.remember wildcard targets) alike.cache
  invocations := alike.invocations

end World.Alike

section Watching

variable {σ : Type} {tool : Tool} {monitor : Monitor σ} {origin : Origin}

theorem Monitor.Passive.keeps (passive : monitor.Passive) (J : Cache → Prop) :
    monitor.Keeps fun w => J w.cache := by
  have same {v w : World σ} (alike : v.Alike w) (start : J w.cache) : J v.cache := by
    rw [alike.cache]
    exact start
  constructor
  · intro text w start
    obtain ⟨v, returned, alike⟩ := passive.subTask text w
    rw [returned]
    exact same alike start
  · intro units w start
    obtain ⟨v, returned, alike⟩ := passive.worked units w
    rw [returned]
    exact same alike start
  · intro w start
    obtain ⟨canceled, v, returned, alike⟩ := passive.isCanceled w
    rw [returned]
    exact same alike start

theorem Monitor.Passive.spares (passive : monitor.Passive) : monitor.SparesKnown := fun known =>
  passive.keeps fun cache => cache.Sound ∧ cache.lastGood = known

theorem Monitor.Passive.alike_of_subTask (passive : monitor.Passive) {text : String} {v w : World σ}
    (returned : monitor.subTask text w = .ok () v) : v.Alike w := by
  obtain ⟨v', same, alike⟩ := passive.subTask text w
  rw [returned] at same
  cases same
  exact alike

theorem Monitor.Passive.alike_of_worked (passive : monitor.Passive) {units : Nat} {v w : World σ}
    (returned : monitor.worked units w = .ok () v) : v.Alike w := by
  obtain ⟨v', same, alike⟩ := passive.worked units w
  rw [returned] at same
  cases same
  exact alike

theorem Monitor.Passive.reportWork (passive : monitor.Passive) (c : Call σ) :
    ∃ w, Resolve.reportWork monitor c = .ok () { c with world := w } ∧ w.Alike c.world := by
  obtain ⟨w, returned, alike⟩ := passive.worked c.report.infos.size c.world
  refine ⟨w, ?_, alike⟩
  rw [Resolve.reportWork_apply, returned]

theorem Monitor.Passive.resolveWithReport (passive : monitor.Passive) {targets : List String}
    {w v : World σ} {c : Call σ} (started : monitor.subTask Cache.resolveTask w = .ok () v)
    (run : Resolve.requests tool monitor origin targets ⟨.empty, v⟩ = .ok () c) :
    ∃ w', Cache.resolveWithReport tool monitor origin targets w = .ok c.report w' ∧
      w'.Alike c.world := by
  obtain ⟨u, ended, alike⟩ := passive.worked c.report.infos.size c.world
  refine ⟨u.tell (Resolve.warnings origin c.report), ?_, (World.Alike.tell u _).trans alike⟩
  rw [Cache.resolveWithReport_eq, started]
  simp only [run, ended]

theorem Monitor.Passive.worked_alike (passive : monitor.Passive) (units : Nat) (w : World σ) :
    (stateAfter (monitor.worked units w)).Alike w := by
  obtain ⟨v, returned, alike⟩ := passive.worked units w
  rw [returned]
  exact alike

theorem Monitor.Passive.isCanceled_alike (passive : monitor.Passive) (w : World σ) :
    (stateAfter (monitor.isCanceled w)).Alike w := by
  obtain ⟨canceled, v, returned, alike⟩ := passive.isCanceled w
  rw [returned]
  exact alike

theorem Move.later (passive : monitor.Passive) {c d : Call σ} (move : Move tool monitor origin c d) :
    c.world.invocations <:+ d.world.invocations := by
  cases move with
  | hit | computed | remembered | degraded | missed | missedAll => exact List.suffix_refl _
  | refused _ =>
    rw [Call.ask, World.ask_invocations]
    split
    next => exact List.suffix_refl _
    next => exact List.suffix_cons _ _
  | learned said =>
    rw [Resolve.invocations_learn tool origin said]
    exact List.suffix_cons _ _
  | degradedAll _ => exact (c.world.tell_invocations _).symm ▸ List.suffix_refl c.world.invocations
  | worked => exact (passive.worked_alike _ c.world).invocations ▸ List.suffix_refl _
  | asked => exact (passive.isCanceled_alike c.world).invocations ▸ List.suffix_refl _

theorem Monitor.silent_patient : (silent : Monitor σ).Patient where
  subTask _ w := ⟨w, rfl, .refl w⟩
  worked _ w := ⟨w, rfl, .refl w⟩
  isCanceled w := ⟨false, w, rfl, .refl w⟩
  goesOn _ _ _ answered := by cases answered; rfl

end Watching

end WorkspaceImport
