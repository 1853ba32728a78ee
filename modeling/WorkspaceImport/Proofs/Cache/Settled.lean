import WorkspaceImport.Proofs.Cache.Usage
/-!
What a call has found, beside what is known. Records are known under their own labels, and what is
current is also what was known last; every record of a report is the last one known of its target,
and of what is missing nothing is known. Every move of a resolution keeps this, as long as whoever
watches leaves the last known records alone.
-/
namespace WorkspaceImport

/-- Records are known under their own labels, and what is current is also what was known last. -/
structure Cache.Sound (c : Cache) : Prop where
  known : ∀ target info, c.current.get? target = some info → c.lastGood.get? target = some info
  own : ∀ target info, c.lastGood.get? target = some info → canonicalLabel info.label = target

namespace Records

variable {infos : List PackageInfo} {target : String} {info : PackageInfo}

theorem mem_of_get?_canonical (found : (canonical infos).get? target = some info) :
    info ∈ infos ∧ canonicalLabel info.label = target := by
  rw [History.get?_canonical] at found
  have member := List.mem_of_mem_head? found
  rw [Change.records, List.mem_reverse, List.mem_filter] at member
  exact ⟨member.1, of_decide_eq_true member.2⟩

theorem own_of_get?_canonical (found : (canonical infos).get? target = some info) :
    canonicalLabel info.label = target :=
  (mem_of_get?_canonical found).2

theorem contains_canonical (member : info ∈ infos) :
    (canonical infos).contains (canonicalLabel info.label) = true := by
  have among := Change.mem_records member
  rw [OrderedMap.contains, History.get?_canonical, List.isSome_head?]
  simpa using List.ne_nil_of_mem among

end Records

namespace Cache

theorem Sound.empty : Cache.empty.Sound where
  known _ _ found := by cases found
  own _ _ found := by cases found

theorem Sound.update {c : Cache} (sound : c.Sound) (infos : List PackageInfo) :
    Sound { c with
      current := c.current.update (Records.canonical infos)
      lastGood := c.lastGood.update (Records.canonical infos) } where
  known target info found := by
    simp only [OrderedMap.get?_update, Option.or_eq_some_iff] at found ⊢
    rcases found with new | ⟨absent, old⟩
    · exact .inl new
    · exact .inr ⟨absent, sound.known target info old⟩
  own target info found := by
    simp only [OrderedMap.get?_update, Option.or_eq_some_iff] at found
    rcases found with new | ⟨_, old⟩
    · exact Records.own_of_get?_canonical new
    · exact sound.own target info old

theorem Sound.flush {c : Cache} (sound : c.Sound) : c.flush.Sound where
  known _ _ found := by cases found
  own := sound.own

theorem Sound.drop {c : Cache} (sound : c.Sound) (target : String) : (c.drop target).Sound where
  known other info left := by
    simp only [Cache.drop, OrderedMap.get?_erase] at left
    split at left
    next => cases left
    next => exact sound.known other info left
  own := sound.own

theorem Sound.package_iff {c : Cache} (sound : c.Sound) {target key : String} {label : Label}
    {info : PackageInfo} (read : Label.parse target = .ok label)
    (known : c.lastGood.get? key = some info) :
    info.package = label.package ↔ packageOf key = label.package := by
  have own := sound.own key info known
  have spelled : canonicalLabel key = canonicalLabel info.label := by
    rw [← own]
    exact canonicalLabel_canonicalLabel info.label
  constructor
  · exact fun owner => packageOf_congr read owner spelled
  · exact fun owner => packageOf_congr read owner spelled.symm

variable {c : Cache} {target key : String} {label : Label} {info : PackageInfo}

theorem Sound.get?_staleOf (sound : c.Sound) (read : Label.parse target = .ok label) :
    (c.staleOf label.package).get? key = some info ↔
      c.lastGood.get? key = some info ∧ packageOf key = label.package := by
  rw [Cache.staleOf, OrderedMap.get?_filter, decide_eq_true_eq]
  exact and_congr_right fun known => sound.package_iff read known

theorem Sound.staleOf_iff (sound : c.Sound) (read : Label.parse target = .ok label) :
    (c.staleOf label.package).isEmpty = false ↔
      ∃ key, c.lastGood.contains key = true ∧ packageOf key = label.package := by
  simp only [OrderedMap.isEmpty_eq_false_iff, sound.get?_staleOf read, OrderedMap.contains_iff,
    exists_and_right]

end Cache

theorem Effect.sound {σ : Type} {tool : Tool} {v w : World σ} (effect : Effect tool v w)
    (sound : v.cache.Sound) : w.cache.Sound := by
  cases effect with
  | idle _ => exact sound
  | hit _ _ => exact ⟨sound.known, sound.own⟩
  | refused origin _ =>
    rw [World.ask_cache]
    exact sound
  | learned origin _ =>
    rw [World.learn_cache]
    exact sound.update _
  | remembered _ _ _ => exact ⟨sound.known, sound.own⟩
  | flushed => exact sound.flush
  | dropped target => exact sound.drop target

theorem Effect.contains_lastGood {σ : Type} {tool : Tool} {v w : World σ} (effect : Effect tool v w)
    {target : String} (known : v.cache.lastGood.contains target = true) :
    w.cache.lastGood.contains target = true := by
  cases effect with
  | idle | hit | remembered | flushed | dropped => exact known
  | refused origin _ =>
    rw [World.ask_cache]
    exact known
  | learned origin _ =>
    simp only [World.learn_cache, OrderedMap.contains_update, known, Bool.or_true]

theorem Snapshot.Reachable.sound {tool : Tool} {s : Snapshot} (reached : s.Reachable tool) :
    s.cache.Sound :=
  reached.keep (I := fun s => s.cache.Sound) Cache.Sound.empty fun _ _ effect => effect.sound

/-- The report of a call agrees with what is known: records are the last ones known of their targets,
and of a missing target nothing is known. -/
structure Call.Settled {σ : Type} (c : Call σ) : Prop where
  sound : c.world.cache.Sound
  found : ∀ target info, c.report.infos.get? target = some info →
    c.world.cache.lastGood.get? target = some info
  missing : ∀ target ∈ c.report.missing, c.world.cache.lastGood.get? target = none

namespace Report

theorem foldl_addDegraded (stale : Records) (r : Report) :
    stale.entries.foldl (fun r e => r.addDegraded e.1 e.2) r = { r with
      infos := r.infos.update stale
      degraded := r.degraded ++ stale.keys } := by
  rw [OrderedMap.update, OrderedMap.keys]
  induction stale.entries generalizing r with
  | nil => simp only [List.foldl_nil, List.map_nil, List.append_nil]
  | cons e rest ih =>
    rw [List.foldl_cons, ih]
    simp only [Report.addDegraded, List.foldl_cons, List.map_cons, List.append_assoc,
      List.singleton_append]

end Report

section Moves

variable {σ : Type} {tool : Tool} {monitor : Monitor σ} {origin : Origin} {c d : Call σ}

/-- Whoever watches leaves the last known records alone. -/
def Monitor.SparesKnown (monitor : Monitor σ) : Prop :=
  ∀ known, monitor.Keeps fun w => w.cache.Sound ∧ w.cache.lastGood = known

theorem Monitor.SparesKnown.sound (spares : monitor.SparesKnown) :
    monitor.Keeps fun w => w.cache.Sound where
  subTask text w start := ((spares w.cache.lastGood).subTask text w ⟨start, rfl⟩).1
  worked units w start := ((spares w.cache.lastGood).worked units w ⟨start, rfl⟩).1
  isCanceled w start := ((spares w.cache.lastGood).isCanceled w ⟨start, rfl⟩).1

theorem Cache.get?_of_staleOf_isEmpty {cache : Cache} (sound : cache.Sound) {target : String}
    {label : Label} (read : Label.parse target = .ok label)
    (none : (cache.staleOf label.package).isEmpty = true) : cache.lastGood.get? target = .none := by
  rw [← OrderedMap.contains_eq_false_iff, Bool.eq_false_iff]
  intro known
  have owner : packageOf target = label.package := by rw [packageOf, read]
  rw [(sound.staleOf_iff read).2 ⟨target, known, owner⟩] at none
  cases none

namespace Call.Settled

variable {target : String} {info : PackageInfo}

theorem empty {w : World σ} (sound : w.cache.Sound) : Call.Settled ⟨.empty, w⟩ where
  sound := sound
  found _ _ found := by cases found
  missing _ member := by cases member

theorem insert (settled : c.Settled) (known : c.world.cache.lastGood.get? target = some info)
    (other : String) (found : PackageInfo)
    (present : (c.report.infos.insert target info).get? other = some found) :
    c.world.cache.lastGood.get? other = some found := by
  rw [OrderedMap.get?_insert] at present
  split at present
  next same =>
    rw [← same, ← Option.some.inj present]
    exact known
  next => exact settled.found other found present

theorem change (settled : c.Settled) {w : World σ} (sound : w.cache.Sound)
    (same : w.cache.lastGood = c.world.cache.lastGood) : Settled { c with world := w } where
  sound := sound
  found := by
    rw [same]
    exact settled.found
  missing := by
    rw [same]
    exact settled.missing

theorem hit (settled : c.Settled) (cached : c.world.cache.current.get? target = some info) :
    (c.hit origin target info).Settled where
  sound := ⟨settled.sound.known, settled.sound.own⟩
  found := settled.insert (settled.sound.known _ _ cached)
  missing := settled.missing

theorem ask (settled : c.Settled) : (c.ask tool origin target).Settled := by
  have same := c.world.ask_cache tool origin target
  exact settled.change (by rw [same]; exact settled.sound) (by rw [same])

/-- New records replace older ones of the report exactly where they do in the cache, and of targets
that are found nothing is missing. -/
theorem learn (settled : c.Settled) (target : String) (infos : List PackageInfo) :
    (c.learn tool origin target infos).Settled where
  sound := by
    simp only [Call.learn, World.learn_cache]
    exact settled.sound.update infos
  found other info present := by
    simp only [Call.learn, Report.merge, World.learn_cache, OrderedMap.get?_update,
      Option.or_eq_some_iff] at present ⊢
    rcases present with new | ⟨absent, old⟩
    · exact .inl new
    · exact .inr ⟨absent, settled.found other info old⟩
  missing other member := by
    simp only [Call.learn, Report.merge, List.mem_filter, Bool.not_eq_true'] at member
    simp only [Call.learn, World.learn_cache, OrderedMap.get?_update]
    rw [OrderedMap.contains_eq_false_iff.1 member.2]
    exact settled.missing other member.1

theorem degrade (settled : c.Settled) (known : c.world.cache.lastGood.get? target = some info) :
    (c.degrade origin target info).Settled where
  sound := settled.sound
  found := settled.insert known
  missing := settled.missing

theorem miss (settled : c.Settled) (unknown : c.world.cache.lastGood.get? target = none) :
    (c.miss origin target).Settled where
  sound := settled.sound
  found := settled.found
  missing other member := by
    rcases List.mem_append.1 member with before | last
    · exact settled.missing other before
    · rw [List.mem_singleton.1 last]
      exact unknown

theorem degradeAll (settled : c.Settled) (target package : String) :
    (c.degradeAll origin target (c.world.cache.staleOf package)).Settled where
  sound := by
    rw [Call.degradeAll, World.tell_cache]
    exact settled.sound
  found other info present := by
    simp only [Call.degradeAll, Report.foldl_addDegraded, OrderedMap.get?_update,
      Option.or_eq_some_iff] at present
    simp only [Call.degradeAll, World.tell_cache]
    rcases present with stale | ⟨_, old⟩
    · exact (OrderedMap.get?_filter.1 stale).1
    · exact settled.found other info old
  missing := by
    simp only [Call.degradeAll, Report.foldl_addDegraded, World.tell_cache]
    exact settled.missing

end Call.Settled

theorem Move.settled (spares : monitor.SparesKnown) (move : Move tool monitor origin c d)
    (settled : c.Settled) : d.Settled := by
  cases move with
  | hit cached => exact settled.hit cached
  | refused _ => exact settled.ask
  | @learned target records _ => exact settled.learn target records.values
  | computed _ => exact ⟨settled.sound, settled.found, settled.missing⟩
  | remembered _ _ _ =>
    exact settled.change ⟨settled.sound.known, settled.sound.own⟩ rfl
  | degraded known => exact settled.degrade known
  | missed unknown => exact settled.miss unknown
  | @degradedAll target label _ => exact settled.degradeAll target label.package
  | missedAll read none =>
    exact settled.miss (Cache.get?_of_staleOf_isEmpty settled.sound read none)
  | worked =>
    have spared := (spares _).worked c.report.infos.size c.world ⟨settled.sound, rfl⟩
    exact settled.change spared.1 spared.2
  | asked =>
    have spared := (spares _).isCanceled c.world ⟨settled.sound, rfl⟩
    exact settled.change spared.1 spared.2

end Moves

theorem Cache.resolveWithReport_ok {σ : Type} {tool : Tool} {monitor : Monitor σ} {origin : Origin}
    {targets : List String} {w w' : World σ} {report : Report}
    (returned : resolveWithReport tool monitor origin targets w = .ok report w') :
    ∃ v c u, monitor.subTask resolveTask w = .ok () v ∧
      Resolve.requests tool monitor origin targets ⟨.empty, v⟩ = .ok () c ∧
      monitor.worked c.report.infos.size c.world = .ok () u ∧
      report = c.report ∧ w' = u.tell (Resolve.warnings origin report) := by
  rw [resolveWithReport_eq] at returned
  cases first : monitor.subTask resolveTask w with
  | error f v =>
    rw [first] at returned
    cases returned
  | ok _ v =>
    rw [first] at returned
    simp only at returned
    cases run : Resolve.requests tool monitor origin targets ⟨.empty, v⟩ with
    | error f c =>
      rw [run] at returned
      cases returned
    | ok _ c =>
      rw [run] at returned
      simp only at returned
      cases last : monitor.worked c.report.infos.size c.world with
      | error f u =>
        rw [last] at returned
        cases returned
      | ok _ u =>
        rw [last] at returned
        cases returned
        exact ⟨v, c, u, rfl, run, last, rfl, rfl⟩

theorem Cache.requests_settled {σ : Type} {tool : Tool} {monitor : Monitor σ} {origin : Origin}
    {targets : List String} {w v : World σ} {c : Call σ} (sound : w.cache.Sound)
    (spares : monitor.SparesKnown) (started : monitor.subTask resolveTask w = .ok () v)
    (run : Resolve.requests tool monitor origin targets ⟨.empty, v⟩ = .ok () c) : c.Settled := by
  have begun := (spares.sound.subTask resolveTask).ok started sound
  have moves := (Resolve.requests_turns tool monitor origin targets ⟨.empty, v⟩).moves.of_ok run
  exact moves.keep (fun _ _ move => move.settled spares) (.empty begun)

theorem Cache.resolveWithReport_settled {σ : Type} {tool : Tool} {monitor : Monitor σ}
    {origin : Origin} {targets : List String} {w w' : World σ} {report : Report}
    (sound : w.cache.Sound) (spares : monitor.SparesKnown)
    (returned : resolveWithReport tool monitor origin targets w = .ok report w') :
    Call.Settled ⟨report, w'⟩ := by
  obtain ⟨v, c, u, started, run, ended, rfl, rfl⟩ := resolveWithReport_ok returned
  have settled := requests_settled sound spares started run
  have last : Move tool monitor origin c _ := .worked c
  rw [ended] at last
  have same := World.tell_cache u (Resolve.warnings origin c.report)
  have kept : Call.Settled { c with world := u } := last.settled spares settled
  exact kept.change (by rw [same]; exact kept.sound) (by rw [same])

end WorkspaceImport
