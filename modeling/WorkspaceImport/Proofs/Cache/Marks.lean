import WorkspaceImport.Proofs.Cache.Invalidation
import WorkspaceImport.Proofs.Cache.PackageFallback
/-!
The marks of a report. What is computed was brought by a run of the call, and most of what is degraded
was not: a target that was brought is degraded in one way only, when after that a wildcard of its
package is asked for in vain, for then all that is known of the package is taken for old. The mark goes
when the target is brought once more.
-/
namespace WorkspaceImport

/-- After a target had been brought, a run for a wildcard of its package brought nothing, and no later
run has brought the target again. -/
def Tool.Eclipses (tool : Tool) (before after : List String) (key : String) : Prop :=
  ∃ wildcard label earlier, wildcard :: earlier <:+ after ∧
    Label.parse wildcard = .ok label ∧ label.isWildcard = true ∧ packageOf key = label.package ∧
    tool.Barren earlier wildcard ∧ tool.Brings before earlier key ∧
    ¬tool.Brings (wildcard :: earlier) after key

namespace Tool

variable {tool : Tool} {before runs : List String} {target key : String}

theorem brings_cons : tool.Brings before (target :: runs) key ↔
    (before <:+ runs ∧ ∃ records, (tool runs target).outcome = .ok records ∧
      ∃ info ∈ records.values, canonicalLabel info.label = key) ∨ tool.Brings before runs key := by
  constructor
  · rintro ⟨other, earlier, records, inside, rest⟩
    rcases List.suffix_cons_iff.1 inside with last | old
    · obtain ⟨rfl, rfl⟩ := List.cons.inj last
      exact .inl ⟨rest.1, records, rest.2⟩
    · exact .inr ⟨other, earlier, records, old, rest⟩
  · rintro (⟨later, records, rest⟩ | old)
    · exact ⟨target, runs, records, List.suffix_refl _, later, rest⟩
    · exact old.later target

theorem brings_answered {records : Records} (answered : (tool runs target).outcome = .ok records) :
    tool.Brings before (target :: runs) key ↔
      (before <:+ runs ∧ (Records.canonical records.values).contains key = true) ∨
        tool.Brings before runs key := by
  rw [brings_cons]
  refine or_congr_left (and_congr_right fun _ => ⟨?_, ?_⟩)
  · rintro ⟨records', said, info, member, rfl⟩
    cases answered.symm.trans said
    exact Records.contains_canonical member
  · intro present
    obtain ⟨info, found⟩ := OrderedMap.contains_iff.1 present
    obtain ⟨member, own⟩ := Records.mem_of_get?_canonical found
    exact ⟨records, answered, info, member, own⟩

theorem brings_refused {f : Failure} (refused : (tool runs target).outcome = .error f) :
    tool.Brings before (target :: runs) key ↔ tool.Brings before runs key := by
  rw [brings_cons]
  refine or_iff_right ?_
  rintro ⟨_, records, said, _⟩
  cases refused.symm.trans said

theorem brings_barren (barren : tool.Barren runs target) :
    tool.Brings before (target :: runs) key ↔ tool.Brings before runs key := by
  obtain ⟨records, answered, none⟩ := barren
  rw [brings_answered answered, none]
  refine or_iff_right ?_
  rintro ⟨_, present⟩
  cases present

theorem not_brings_self : ¬tool.Brings runs runs key := by
  rintro ⟨target, earlier, _, inside, later, _⟩
  have longer := inside.length_le
  have shorter := later.length_le
  rw [List.length_cons] at longer
  omega

theorem Eclipses.later {after : List String} (eclipses : tool.Eclipses before runs key)
    (longer : runs <:+ after) (same : ∀ since, tool.Brings since after key → tool.Brings since runs key) :
    tool.Eclipses before after key := by
  obtain ⟨wildcard, label, earlier, inside, read, wild, owner, barren, brings, never⟩ := eclipses
  exact ⟨wildcard, label, earlier, inside.trans longer, read, wild, owner, barren, brings,
    fun again => never (same _ again)⟩

end Tool

/-- A call in which a target is computed only if a run since some others brought it, and degraded, if
one did, only because of a wildcard that was asked for in vain. -/
structure Call.Marked {σ : Type} (tool : Tool) (before : List String) (c : Call σ) : Prop where
  later : before <:+ c.world.invocations
  found : ∀ key, tool.Brings before c.world.invocations key → c.report.infos.contains key = true
  computed : ∀ key ∈ c.report.computed, tool.Brings before c.world.invocations key
  degraded : ∀ key ∈ c.report.degraded, tool.Brings before c.world.invocations key →
    tool.Eclipses before c.world.invocations key

namespace Call.Marked

variable {σ : Type} {tool : Tool} {origin : Origin} {before : List String} {c : Call σ}
  {target : String}

theorem start (tool : Tool) {v w : World σ} (alike : v.Alike w) :
    Marked tool w.invocations ⟨.empty, v⟩ where
  later := alike.invocations ▸ List.suffix_refl _
  found key brings := by
    rw [alike.invocations] at brings
    exact absurd brings Tool.not_brings_self
  computed _ member := by cases member
  degraded _ member := by cases member

theorem change (marked : c.Marked tool before) {w : World σ}
    (same : w.invocations = c.world.invocations) : Marked tool before { c with world := w } := by
  obtain ⟨later, found, computed, degraded⟩ := marked
  rw [← same] at later found computed degraded
  exact ⟨later, found, computed, degraded⟩

theorem hit (marked : c.Marked tool before) (info : PackageInfo) :
    (c.hit origin target info).Marked tool before where
  later := marked.later
  found key brings := by
    simp only [Call.hit, Report.addHit, OrderedMap.contains_insert, marked.found key brings,
      Bool.or_true]
  computed := marked.computed
  degraded := marked.degraded

theorem unbrought (marked : c.Marked tool before) {w : World σ}
    (runs : w.invocations = target :: c.world.invocations)
    (none : ∀ since key, tool.Brings since (target :: c.world.invocations) key →
      tool.Brings since c.world.invocations key) : Marked tool before { c with world := w } := by
  have longer := List.suffix_cons target c.world.invocations
  rw [← runs] at longer none
  exact {
    later := marked.later.trans longer
    found := fun key brings => marked.found key (none _ key brings)
    computed := fun key member => by
      rw [runs]
      exact (marked.computed key member).later target
    degraded := fun key member brings =>
      (marked.degraded key member (none _ key brings)).later longer fun since => none since key }

theorem ask (marked : c.Marked tool before) {f : Failure}
    (refused : (tool c.world.invocations target).outcome = .error f) :
    (c.ask tool origin target).Marked tool before := by
  have runs := c.world.ask_invocations tool origin target
  split at runs
  next => exact marked.change runs
  next => exact marked.unbrought runs fun _ _ => (Tool.brings_refused refused).1

theorem learn (marked : c.Marked tool before) (origin : Origin) {records : Records}
    (answered : (tool c.world.invocations target).outcome = .ok records) :
    (c.learn tool origin target records.values).Marked tool before := by
  have runs := Resolve.invocations_learn tool origin answered
  have brought (since : List String) (key : String) :
      tool.Brings since (target :: c.world.invocations) key ↔ _ := Tool.brings_answered answered
  have longer := List.suffix_cons target c.world.invocations
  rw [← runs] at brought longer
  constructor
  · exact marked.later.trans longer
  · intro key brings
    simp only [Call.learn, Report.merge, OrderedMap.contains_update, Bool.or_eq_true]
    exact ((brought _ key).1 brings).imp And.right (marked.found key)
  · exact fun key member => (brought _ key).2 (.inr (marked.computed key member))
  · intro key member brings
    obtain ⟨old, absent⟩ := List.mem_filter.1 member
    have same (since : List String) (again : tool.Brings since
        (c.learn tool origin target records.values).world.invocations key) :
        tool.Brings since c.world.invocations key := by
      refine ((brought since key).1 again).resolve_left ?_
      rintro ⟨_, present⟩
      rw [present] at absent
      cases absent
    exact (marked.degraded key old (same _ brings)).later longer same

theorem addComputed (marked : c.Marked tool before) {targets : List String}
    (new : ∀ key ∈ targets, tool.Brings before c.world.invocations key) :
    (c.addComputed targets).Marked tool before where
  later := marked.later
  found := marked.found
  computed key member := (List.mem_append.1 member).elim (marked.computed key) (new key)
  degraded := marked.degraded

theorem degrade (marked : c.Marked tool before) (info : PackageInfo)
    (never : ¬tool.Brings before c.world.invocations target) :
    (c.degrade origin target info).Marked tool before where
  later := marked.later
  found key brings := by
    simp only [Call.degrade, Report.addDegraded, OrderedMap.contains_insert,
      marked.found key brings, Bool.or_true]
  computed := marked.computed
  degraded key member brings := by
    rcases List.mem_append.1 member with old | last
    · exact marked.degraded key old brings
    · rw [List.mem_singleton.1 last] at brings
      exact absurd brings never

theorem miss (marked : c.Marked tool before) : (c.miss origin target).Marked tool before :=
  ⟨marked.later, marked.found, marked.computed, marked.degraded⟩

theorem fallBack (marked : c.Marked tool before)
    (never : ¬tool.Brings before c.world.invocations target) :
    (c.fallBack origin target).Marked tool before := by
  unfold Call.fallBack
  split
  next info _ => exact marked.degrade info never
  next => exact marked.miss

theorem degradeAll (marked : c.Marked tool before) {stale : Records}
    (eclipsed : ∀ key ∈ stale.keys, tool.Brings before c.world.invocations key →
      tool.Eclipses before c.world.invocations key) :
    (c.degradeAll origin target stale).Marked tool before := by
  have runs := c.world.tell_invocations [.stalePackage target stale.size origin]
  have told := Report.foldl_addDegraded stale c.report
  constructor <;> simp only [Call.degradeAll, runs, told]
  · exact marked.later
  · intro key brings
    simp only [OrderedMap.contains_update, marked.found key brings, Bool.or_true]
  · exact marked.computed
  · exact fun key member => (List.mem_append.1 member).elim (marked.degraded key) (eclipsed key)

/-- The call has just asked for a wildcard in vain. Of what is known of its package, the targets that
had been brought are eclipsed by that. -/
theorem fallBackPackage (marked : c.Marked tool before) (sound : c.world.cache.Sound)
    {runs : List String} (ran : c.world.invocations = target :: runs) {label : Label}
    (read : Label.parse target = .ok label) (wild : label.isWildcard = true)
    (barren : tool.Barren runs target) :
    (c.fallBackPackage origin target label.package).Marked tool before := by
  simp only [Call.fallBackPackage]
  split
  next => exact marked.miss
  next =>
    refine marked.degradeAll fun key stale brings => ?_
    obtain ⟨info, found⟩ := OrderedMap.contains_iff.1 (OrderedMap.contains_iff_mem_keys.2 stale)
    have inside := ((sound.get?_staleOf read).1 found).2
    rw [ran, Tool.brings_barren barren] at brings
    rw [ran]
    exact ⟨target, label, runs, List.suffix_refl _, read, wild, inside, barren, brings,
      Tool.not_brings_self⟩

theorem answerLiteral (marked : c.Marked tool before) {records : Records}
    (answered : (tool c.world.invocations target).outcome = .ok records) :
    (c.answerLiteral tool origin target records.values).Marked tool before := by
  have learned := marked.learn origin answered
  have runs := Resolve.invocations_learn tool origin answered
  simp only [Call.answerLiteral]
  split
  next found =>
    refine learned.addComputed fun key member => ?_
    rw [List.mem_singleton.1 member, runs, Tool.brings_answered answered]
    exact .inl ⟨marked.later, found⟩
  next =>
    split
    next => exact learned
    next absent => exact learned.fallBack fun brings => absent (learned.found target brings)

theorem answerWildcard (marked : c.Marked tool before) (sound : c.world.cache.Sound)
    {records : Records} {label : Label} (read : Label.parse target = .ok label)
    (wild : label.isWildcard = true)
    (answered : (tool c.world.invocations target).outcome = .ok records) :
    (c.answerWildcard tool origin target label.package records.values).Marked tool before := by
  have runs := Resolve.invocations_learn tool origin answered
  have learned := marked.learn origin answered
  simp only [Call.answerWildcard]
  split
  next none =>
    refine learned.fallBackPackage ?_ runs read wild
      ⟨records, answered, Records.eq_nil_of_isEmpty none⟩
    rw [Call.learn, World.learn_cache]
    exact sound.update records.values
  next =>
    have remembered := learned.change (w := (c.learn tool origin target records.values).world.remember
      target (Records.canonical records.values).keys) rfl
    refine remembered.addComputed fun key member => ?_
    change tool.Brings before (c.learn tool origin target records.values).world.invocations key
    rw [runs, Tool.brings_answered answered]
    exact .inl ⟨marked.later, OrderedMap.contains_iff_mem_keys.2 member⟩

end Call.Marked

section Turns

variable {σ : Type} {tool : Tool} {monitor : Monitor σ} {origin : Origin} {before : List String}
  {c d : Call σ}

theorem Turn.marked (passive : monitor.Passive) (turn : Turn tool monitor origin c d)
    (sound : c.world.cache.Sound) (marked : c.Marked tool before) : d.Marked tool before := by
  cases turn with
  | hit _ => exact marked.hit _
  | refused said => exact marked.ask said
  | literal _ said => exact marked.answerLiteral said
  | wildcard read wild _ said => exact marked.answerWildcard sound read wild said
  | worked => exact marked.change (passive.worked_alike ..).invocations
  | asked => exact marked.change (passive.isCanceled_alike _).invocations

theorem Turns.marked (passive : monitor.Passive) (turns : Turns tool monitor origin c d)
    (sound : c.world.cache.Sound) (marked : c.Marked tool before) :
    d.world.cache.Sound ∧ d.Marked tool before := by
  refine turns.keep (I := fun c => c.world.cache.Sound ∧ c.Marked tool before) ?_ ⟨sound, marked⟩
  intro c d turn ⟨sound, marked⟩
  exact ⟨turn.moves.keep_world (J := fun w => w.cache.Sound) (fun _ _ effect => effect.sound)
    passive.spares.sound sound, turn.marked passive sound marked⟩

def Call.Doubts (tool : Tool) (runs : List String) (key : String) (c : Call σ) : Prop :=
  runs <:+ c.world.invocations ∧
    (key ∈ c.report.degraded ∨ tool.Brings runs c.world.invocations key)

theorem Move.doubts {runs : List String} {key : String} (passive : monitor.Passive)
    (move : Move tool monitor origin c d) (doubts : c.Doubts tool runs key) :
    d.Doubts tool runs key := by
  obtain ⟨later, marked | brings⟩ := doubts
  · refine ⟨later.trans (move.later passive), ?_⟩
    cases move with
    | hit | refused | computed | remembered | missed | missedAll | worked | asked => exact .inl marked
    | degraded _ => exact .inl (List.mem_append_left _ marked)
    | degradedAll _ =>
      rw [Call.degradeAll, Report.foldl_addDegraded]
      exact .inl (List.mem_append_left _ marked)
    | @learned target records said =>
      rw [Resolve.invocations_learn tool origin said, Tool.brings_answered said]
      by_cases again : (Records.canonical records.values).contains key = true
      · exact .inr (.inl ⟨later, again⟩)
      · exact .inl (List.mem_filter.2 ⟨marked, by simpa using again⟩)
  · exact ⟨later.trans (move.later passive), .inr (brings.mono (move.later passive))⟩

/-- A target that had been brought is degraded when a wildcard of its package is asked for in vain,
unless it is brought once more. -/
theorem Resolve.FallsBack.degraded {targets runs : List String} {w v : World σ} {wildcard key : String}
    {label : Label} (fallsBack : FallsBack tool monitor origin targets w wildcard runs)
    (passive : monitor.Passive) (sound : v.cache.Sound) (read : Label.parse wildcard = .ok label)
    (wild : label.isWildcard = true) (started : monitor.subTask Cache.resolveTask w = .ok () v)
    (run : requests tool monitor origin targets ⟨.empty, v⟩ = .ok () d)
    (owner : packageOf key = label.package) (brings : tool.Brings w.invocations runs key)
    (never : ¬tool.Brings (canonicalLabel wildcard :: runs) d.world.invocations key) :
    key ∈ d.report.degraded := by
  obtain ⟨c, before, asked, next, _, after⟩ := fallsBack.turns read wild started run
  have settled := before.moves.keep (fun _ _ move => move.settled passive.spares) (.empty sound)
  have marked := (before.marked passive sound (.start tool (passive.alike_of_subTask started))).2
  obtain ⟨info, found⟩ := OrderedMap.contains_iff.1 (marked.found key (by rw [asked]; exact brings))
  have known := settled.found key info found
  have inside := (settled.sound.package_iff read known).2 owner
  have degraded := (Call.fallBackPackage_known (c := c.ask tool origin (canonicalLabel wildcard))
    origin (canonicalLabel wildcard) (by rw [Call.ask, World.ask_cache]; exact known) inside).2
  have doubted : Call.Doubts tool (canonicalLabel wildcard :: runs) key _ :=
    ⟨next ▸ List.suffix_refl _, .inl degraded⟩
  have doubts := after.moves.keep (fun _ _ move => move.doubts passive) doubted
  exact doubts.2.resolve_right never

end Turns

namespace Cache

variable {σ : Type} {tool : Tool} {monitor : Monitor σ} {origin : Origin} {targets : List String}
  {w w' : World σ} {report : Report}

/-- What is computed was brought by a run of this call. What is degraded was not, except for a target
of whose package a wildcard was asked for in vain after that; and such a target is degraded indeed, if
it is not brought once more. -/
theorem resolveWithReport_degraded (reached : w.snapshot.Reachable tool) (passive : monitor.Passive)
    (returned : resolveWithReport tool monitor origin targets w = .ok report w') :
    (∀ key ∈ report.computed, tool.Brings w.invocations w'.invocations key) ∧
    (∀ key ∈ report.degraded, tool.Brings w.invocations w'.invocations key →
      tool.Eclipses w.invocations w'.invocations key) ∧
    ∀ wildcard label earlier, Label.parse wildcard = .ok label → label.isWildcard = true →
      Resolve.FallsBack tool monitor origin targets w wildcard earlier →
      ∀ key, packageOf key = label.package → tool.Brings w.invocations earlier key →
        ¬tool.Brings (canonicalLabel wildcard :: earlier) w'.invocations key →
        key ∈ report.degraded := by
  obtain ⟨v, d, u, started, run, ended, rfl, rfl⟩ := resolveWithReport_ok returned
  have begun := passive.alike_of_subTask started
  have sound : v.cache.Sound := by
    rw [begun.cache]
    exact reached.sound
  have turns : Turns tool monitor origin ⟨.empty, v⟩ d :=
    (Resolve.requests_turns tool monitor origin targets _).of_ok run
  have marked := (turns.marked passive sound (.start tool begun)).2
  have alike := (World.Alike.tell u (Resolve.warnings origin d.report)).trans
    (passive.alike_of_worked ended)
  rw [alike.invocations]
  refine ⟨marked.computed, marked.degraded, ?_⟩
  intro wildcard label earlier read wild fallsBack key owner brings never
  exact fallsBack.degraded passive sound read wild started run owner brings never

/-- A target is computed, and then the tool has nothing for the wildcard of its package. -/
theorem resolveWithReport_degraded_sample :
    let tool := Tool.listing [("//a:x", ["//a:x"])]
    let w := (Usage.done true).ending tool
    ∃ report w', resolveWithReport tool .silent default ["//a:x", "//a:*"] w = .ok report w' ∧
      tool.Brings w.invocations w'.invocations "//a:x" ∧
      tool.Eclipses w.invocations w'.invocations "//a:x" ∧ "//a:x" ∈ report.degraded := by
  intro tool w
  obtain ⟨report, w', returned⟩ := eq_ok_of_answer?
    (r := resolveWithReport tool .silent default ["//a:x", "//a:*"] w) (by decide +kernel)
  obtain ⟨computed, degraded, doubted⟩ := resolveWithReport_degraded
    (Usage.ending_reachable tool (.done true)) Monitor.silent_patient.toPassive returned
  obtain ⟨_, c, went⟩ := eq_ok_of_answer?
    (r := Resolve.requests tool .silent default ["//a:x"] ⟨.empty, w⟩) (by decide +kernel)
  have made : (stateAfter (resolveWithReport tool .silent default ["//a:x", "//a:*"] w)).invocations =
      ["//a:*", "//a:x"] := by decide +kernel
  have asked : (stateAfter (Resolve.requests tool .silent default ["//a:x"]
      ⟨.empty, w⟩)).world.invocations = ["//a:x"] := by decide +kernel
  have unknown : (stateAfter (Resolve.requests tool .silent default ["//a:x"]
      ⟨.empty, w⟩)).world.cache.expansion? "//a:*" = none := by decide +kernel
  have listed : (answer? (resolveWithReport tool .silent default ["//a:x", "//a:*"] w)).map
      (·.computed) = some ["//a:x"] := by decide +kernel
  rw [returned] at made listed
  rw [went] at asked unknown
  rw [stateAfter] at made asked unknown
  have among : report.computed = ["//a:x"] := Option.some.inj listed
  have brought := computed "//a:x" (by rw [among]; exact List.mem_cons_self)
  have fallsBack : Resolve.FallsBack tool .silent default ["//a:x", "//a:*"] w "//a:*"
      c.world.invocations := by
    refine .intro (List.singleton_append).symm rfl went rfl unknown ?_
    rw [asked]
    exact ⟨_, rfl, by decide +kernel⟩
  have spelled : canonicalLabel "//a:*" = "//a:*" := by decide +kernel
  have last : tool.Brings w.invocations ["//a:x"] "//a:x" :=
    (Tool.brings_answered rfl).2 (.inl ⟨by decide +kernel, by decide +kernel⟩)
  have marked := doubted "//a:*" ⟨"", "a", some "*"⟩ _ (by decide +kernel) (by decide +kernel) fallsBack
    "//a:x" (by decide +kernel) (by rw [asked]; exact last)
    (by rw [asked, spelled, made]; exact Tool.not_brings_self)
  exact ⟨report, w', returned, brought, degraded "//a:x" marked brought, marked⟩

/-- A target that a run of the call brought, and that is degraded. -/
theorem resolveWithReport_computed_degraded :
    let tool := Tool.listing [("//a:x", ["//a:x"])]
    let w := (Usage.done true).ending tool
    let r := resolveWithReport tool .silent default ["//a:x", "//a:*"] w
    w.snapshot.Reachable tool ∧
      tool.Brings w.invocations (stateAfter r).invocations "//a:x" ∧
      (answer? r).map (fun report => (report.computed, report.degraded)) =
        some (["//a:x"], ["//a:x"]) := by
  intro tool w r
  refine ⟨Usage.ending_reachable tool _, ?_, by decide +kernel⟩
  have made : (stateAfter r).invocations = ["//a:*", "//a:x"] := by decide +kernel
  have brought : tool.Brings w.invocations ["//a:x"] "//a:x" :=
    (Tool.brings_answered rfl).2 (.inl ⟨by decide +kernel, by decide +kernel⟩)
  rw [made]
  exact brought.later "//a:*"

end Cache

end WorkspaceImport
