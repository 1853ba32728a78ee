import WorkspaceImport.Proofs.Cache.Invalidation
import WorkspaceImport.Proofs.Cache.PackageFallback
/-!
What a complete report promises. A report is complete if nothing is degraded or missing in the end, so
all that was found is current then, and with it every target that stands for itself. For a wildcard
that was asked for in vain, the known records of its package stood in; when all of these are brought
again by later runs, the report is complete, though no expansion of the wildcard is remembered.
-/
namespace WorkspaceImport

variable {σ : Type} {tool : Tool} {monitor : Monitor σ} {origin : Origin} {c d : Call σ}

def Call.Current (c : Call σ) : Prop :=
  ∀ key, c.report.infos.contains key = true →
    c.world.cache.current.contains key = true ∨ key ∈ c.report.degraded

def Call.Noted (wildcard package : String) (c : Call σ) : Prop :=
  wildcard ∈ c.report.missing ∨
    ∃ key, c.world.cache.lastGood.contains key = true ∧ packageOf key = package

def Call.Recent (package : String) (c : Call σ) : Prop :=
  ∀ key info, c.world.cache.lastGood.get? key = some info → packageOf key = package →
    c.world.cache.current.get? key = some info ∨ key ∈ c.report.degraded

/-- Since some runs a wildcard was asked for in vain, and what was known of its package stood in. -/
structure Call.FellBack (tool : Tool) (before : List String) (wildcard package : String)
    (c : Call σ) : Prop where
  owner : packageOf wildcard = package
  ran : ∃ earlier, wildcard :: earlier <:+ c.world.invocations ∧ before <:+ earlier ∧
    tool.Barren earlier wildcard
  noted : c.Noted wildcard package
  recent : c.Recent package

/-- An expansion of a wildcard is remembered, or it was asked for in vain since some runs. -/
def Call.Served (tool : Tool) (before : List String) (wildcard package : String) (c : Call σ) :
    Prop :=
  c.world.cache.wildcards.contains wildcard = true ∨ c.FellBack tool before wildcard package

namespace Move

variable (passive : monitor.Passive) (move : Move tool monitor origin c d)
include passive move

theorem current (current : c.Current) : d.Current := by
  cases move with
  | @hit target info cached =>
    intro key present
    simp only [Call.hit, Report.addHit, OrderedMap.contains_insert, Bool.or_eq_true,
      decide_eq_true_eq] at present
    rcases present with rfl | old
    · exact .inl (OrderedMap.contains_iff.2 ⟨info, cached⟩)
    · exact current key old
  | refused _ =>
    rw [Call.Current, Call.ask, World.ask_cache]
    exact current
  -- What was marked before stays marked only if it was not brought now.
  | @learned target records _ =>
    intro key present
    simp only [Call.learn, Report.merge, OrderedMap.contains_update, World.learn_cache,
      Bool.or_eq_true] at present ⊢
    by_cases new : (Records.canonical records.values).contains key = true
    · exact .inl (.inl new)
    · rcases current key (present.resolve_left new) with old | marked
      · exact .inl (.inr old)
      · exact .inr (List.mem_filter.2 ⟨marked, by simpa using new⟩)
  | computed | missed | missedAll | remembered => exact current
  | degraded _ =>
    intro key present
    simp only [Call.degrade, Report.addDegraded, OrderedMap.contains_insert, Bool.or_eq_true,
      decide_eq_true_eq] at present
    rcases present with rfl | old
    · exact .inr (List.mem_append_right _ (List.mem_singleton.2 rfl))
    · exact (current key old).imp_right (List.mem_append_left _)
  | degradedAll _ =>
    intro key present
    simp only [Call.degradeAll, Report.foldl_addDegraded, OrderedMap.contains_update,
      World.tell_cache, Bool.or_eq_true] at present ⊢
    rcases present with stale | old
    · exact .inr (List.mem_append_right _ (OrderedMap.contains_iff_mem_keys.1 stale))
    · exact (current key old).imp_right (List.mem_append_left _)
  | worked =>
    rw [Call.Current, (passive.worked_alike ..).cache]
    exact current
  | asked =>
    rw [Call.Current, (passive.isCanceled_alike _).cache]
    exact current

variable {before : List String} {wildcard package : String}

theorem noted (owner : packageOf wildcard = package) (noted : c.Noted wildcard package) :
    d.Noted wildcard package := by
  cases move with
  | hit | computed | remembered | degraded => exact noted
  | refused _ =>
    rw [Call.Noted, Call.ask, World.ask_cache]
    exact noted
  | @learned target records _ =>
    simp only [Call.Noted, Call.learn, Report.merge, World.learn_cache, OrderedMap.contains_update,
      Bool.or_eq_true]
    rcases noted with missing | ⟨key, known, inside⟩
    · by_cases new : (Records.canonical records.values).contains wildcard = true
      · exact .inr ⟨wildcard, .inl new, owner⟩
      · exact .inl (List.mem_filter.2 ⟨missing, by simpa using new⟩)
    · exact .inr ⟨key, .inr known, inside⟩
  | missed | missedAll => exact noted.imp_left (List.mem_append_left _)
  | degradedAll _ =>
    rw [Call.Noted, Call.degradeAll, World.tell_cache, Report.foldl_addDegraded]
    exact noted
  | worked =>
    rw [Call.Noted, (passive.worked_alike ..).cache]
    exact noted
  | asked =>
    rw [Call.Noted, (passive.isCanceled_alike _).cache]
    exact noted

theorem recent (recent : c.Recent package) : d.Recent package := by
  cases move with
  | hit | computed | remembered | missed | missedAll => exact recent
  | refused _ =>
    rw [Call.Recent, Call.ask, World.ask_cache]
    exact recent
  | @learned target records _ =>
    intro key info known inside
    simp only [Call.learn, Report.merge, World.learn_cache, OrderedMap.get?_update,
      Option.or_eq_some_iff] at known ⊢
    rcases known with new | ⟨absent, old⟩
    · exact .inl (.inl new)
    · refine (recent key info old inside).imp (fun still => .inr ⟨absent, still⟩) fun marked => ?_
      exact List.mem_filter.2 ⟨marked, by rw [OrderedMap.contains_eq_false_iff.2 absent]; rfl⟩
  | degraded _ =>
    exact fun key info known inside =>
      (recent key info known inside).imp_right (List.mem_append_left _)
  | degradedAll _ =>
    rw [Call.Recent, Call.degradeAll, World.tell_cache, Report.foldl_addDegraded]
    exact fun key info known inside =>
      (recent key info known inside).imp_right (List.mem_append_left _)
  | worked =>
    rw [Call.Recent, (passive.worked_alike ..).cache]
    exact recent
  | asked =>
    rw [Call.Recent, (passive.isCanceled_alike _).cache]
    exact recent

theorem fellBack (fellBack : c.FellBack tool before wildcard package) :
    d.FellBack tool before wildcard package := by
  obtain ⟨owner, ⟨earlier, inside, rest⟩, noted, recent⟩ := fellBack
  exact ⟨owner, ⟨earlier, inside.trans (move.later passive), rest⟩,
    move.noted passive owner noted, move.recent passive recent⟩

theorem served (served : c.Served tool before wildcard package) :
    d.Served tool before wildcard package := by
  rcases served with remembered | fellBack
  · left
    cases move with
    | hit | computed | degraded | missed | missedAll => exact remembered
    | refused _ =>
      rw [Call.ask, World.ask_cache]
      exact remembered
    | learned _ =>
      rw [Call.learn, World.learn_cache]
      exact remembered
    | remembered _ _ _ =>
      simp only [Call.remember, World.remember, Cache.remember, OrderedMap.contains_insert,
        remembered, Bool.or_true]
    | degradedAll _ =>
      rw [Call.degradeAll, World.tell_cache]
      exact remembered
    | worked =>
      rw [(passive.worked_alike ..).cache]
      exact remembered
    | asked =>
      rw [(passive.isCanceled_alike _).cache]
      exact remembered
  · exact .inr (move.fellBack passive fellBack)

end Move

namespace Call

variable {before : List String} {wildcard target : String} {label : Label}

theorem fellBack_fallBackPackage (sound : c.world.cache.Sound)
    (read : Label.parse target = .ok label) (owner : packageOf wildcard = label.package)
    (ran : ∃ earlier, wildcard :: earlier <:+ c.world.invocations ∧ before <:+ earlier ∧
      tool.Barren earlier wildcard) :
    (c.fallBackPackage origin wildcard label.package).FellBack tool before wildcard label.package := by
  constructor
  · exact owner
  · rw [fallBackPackage_invocations]
    exact ran
  · by_cases unknown : (c.world.cache.staleOf label.package).isEmpty = true
    · exact .inl (fallBackPackage_missing origin wildcard unknown)
    · rw [Noted, fallBackPackage_cache]
      exact .inr ((sound.staleOf_iff read).1 (Bool.eq_false_iff.2 unknown))
  · rw [Recent, fallBackPackage_cache]
    intro key info known inside
    exact .inr (fallBackPackage_known origin wildcard known
      ((sound.package_iff read known).2 inside)).2

theorem served_answerWildcard (sound : c.world.cache.Sound)
    (later : before <:+ c.world.invocations) (read : Label.parse target = .ok label)
    (owner : packageOf wildcard = label.package) {records : Records}
    (answered : (tool c.world.invocations wildcard).outcome = .ok records) :
    (c.answerWildcard tool origin wildcard label.package records.values).Served tool before wildcard
      label.package := by
  by_cases none : (Records.canonical records.values).isEmpty = true
  · right
    have runs := Resolve.invocations_learn tool origin answered
    have barren := Records.eq_nil_of_isEmpty none
    rw [barren, learn_nil] at runs
    rw [barren, answerWildcard_nil]
    refine fellBack_fallBackPackage ?_ read owner ?_
    · rw [ask, World.ask_cache]
      exact sound
    · rw [runs]
      exact ⟨_, List.suffix_refl _, later, records, answered, barren⟩
  · left
    simp only [answerWildcard, if_neg none, addComputed, remember, World.remember, Cache.remember,
      OrderedMap.contains_insert, decide_true, Bool.true_or]

end Call

namespace Resolve

theorem request_served (passive : monitor.Passive) {before : List String} {target : String}
    {label : Label} (sound : c.world.cache.Sound) (later : before <:+ c.world.invocations)
    (read : Label.parse target = .ok label) (wild : label.isWildcard = true)
    (returned : request tool monitor origin target c = .ok () d) :
    d.Served tool before (canonicalLabel target) label.package := by
  have spelled : canonicalLabel target = label.canonical.text := by
    rw [canonicalLabel, read]
  have again : Label.parse (canonicalLabel target) = .ok label.canonical := parse_canonicalLabel read
  have owner : packageOf (canonicalLabel target) = label.package := by
    rw [packageOf, again]
    exact label.package_canonical
  have alike := passive.isCanceled_alike c.world
  rw [request_eq] at returned
  split at returned
  next => cases returned
  next => cases returned
  next w asked =>
    rw [asked, stateAfter] at alike
    simp only [read, wild, if_true] at returned
    rw [← spelled] at returned
    -- Once it is served it stays so, whatever the rest of the request does.
    have kept {b : Call σ} (turns : Turns tool monitor origin b d)
        (start : b.Served tool before (canonicalLabel target) label.package) :
        d.Served tool before (canonicalLabel target) label.package :=
      turns.moves.keep (fun _ _ move => move.served passive) start
    cases known : w.cache.wildcards.get? (canonicalLabel target) with
    | some expansion =>
      exact kept ((wildcard_turns tool monitor origin nestingLimit [] again
        (Label.isWildcard_canonical wild) _).of_ok returned)
        (.inl (OrderedMap.contains_iff.2 ⟨expansion, known⟩))
    | none =>
      cases said : (tool w.invocations (canonicalLabel target)).outcome with
      | error f =>
        rw [nestingLimit_eq_succ, wildcard_refused (c := { c with world := w }) tool monitor origin _
          rfl known said] at returned
        cases returned
      | ok records =>
        rw [nestingLimit_eq_succ, wildcard_answered (c := { c with world := w }) tool monitor origin _
          rfl again known said, Label.package_canonical] at returned
        refine kept ((reportWork_turns tool monitor origin _).of_ok returned)
          (Call.served_answerWildcard ?_ ?_ read owner said)
        · rw [alike.cache]
          exact sound
        · rw [alike.invocations]
          exact later

theorem requests_served (passive : monitor.Passive) {before targets : List String}
    (sound : c.world.cache.Sound) (later : before <:+ c.world.invocations)
    (returned : requests tool monitor origin targets c = .ok () d) :
    ∀ target ∈ targets, ∀ label, Label.parse target = .ok label → label.isWildcard = true →
      d.Served tool before (canonicalLabel target) label.package := by
  apply Call.Chain.forM_all (R := Move tool monitor origin)
    (I := fun c => c.world.cache.Sound ∧ before <:+ c.world.invocations)
    (P := fun target d => ∀ label, Label.parse target = .ok label → label.isWildcard = true →
      d.Served tool before (canonicalLabel target) label.package)
    (fun target c => (request_turns tool monitor origin target c).moves) _ _ _ ⟨sound, later⟩ returned
  · intro c d move ⟨sound, later⟩
    exact ⟨move.keep (J := fun w => w.cache.Sound) (fun _ _ effect => effect.sound)
      passive.spares.sound sound, later.trans (move.later passive)⟩
  · exact fun target c d move served label read wild => move.served passive (served label read wild)
  · exact fun target _ c d held run label read wild =>
      request_served passive held.1 held.2 read wild run

end Resolve

/-- After a call that returns with a complete report, every requested target that stands for itself is
cached. Of every requested wildcard an expansion is remembered, or else a run of this call brought
nothing for it; then something is known of its package, and all of it is current. -/
theorem Cache.resolveWithReport_complete {targets : List String} {w w' : World σ} {report : Report}
    (reached : w.snapshot.Reachable tool) (passive : monitor.Passive)
    (returned : resolveWithReport tool monitor origin targets w = .ok report w')
    (complete : report.complete = true) :
    ∀ target ∈ targets, ∀ label, Label.parse target = .ok label →
      (label.isWildcard = false → w'.cache.isCached target = true) ∧
      (label.isWildcard = true → (w'.cache.expansion? target).isSome = true ∨
        (∃ earlier, canonicalLabel target :: earlier <:+ w'.invocations ∧
          w.invocations <:+ earlier ∧ tool.Barren earlier (canonicalLabel target)) ∧
        (w'.cache.staleOf label.package).isEmpty = false ∧
        ∀ key info, (w'.cache.staleOf label.package).get? key = some info →
          w'.cache.current.get? key = some info) := by
  obtain ⟨v, d, u, started, run, ended, rfl, rfl⟩ := resolveWithReport_ok returned
  have begun := passive.alike_of_subTask started
  have sound : v.cache.Sound := by
    rw [begun.cache]
    exact reached.sound
  have later : w.invocations <:+ v.invocations := begun.invocations ▸ List.suffix_refl _
  have alike := (World.Alike.tell u (Resolve.warnings origin d.report)).trans
    (passive.alike_of_worked ended)
  simp only [Report.complete, Bool.and_eq_true, List.isEmpty_iff] at complete
  obtain ⟨undegraded, nothing⟩ := complete
  have turns : Turns tool monitor origin ⟨.empty, v⟩ d :=
    (Resolve.requests_turns tool monitor origin targets _).of_ok run
  intro target member label read
  rw [alike.cache, alike.invocations]
  constructor
  · intro single
    have found := (Resolve.requests_answers run target member label read single).resolve_right
      (by rw [nothing]; exact List.not_mem_nil)
    have current : d.Current := turns.moves.keep (fun _ _ move => move.current passive)
      fun _ present => by cases present
    exact (current _ found).resolve_right (by rw [undegraded]; exact List.not_mem_nil)
  · intro wild
    have settled := requests_settled reached.sound passive.spares started run
    -- A complete report has nothing missing, so the wildcard was answered from what is known.
    rcases Resolve.requests_served passive sound later run target member label read wild with
      remembered | ⟨_, ran, noted, recent⟩
    · exact .inl remembered
    · refine .inr ⟨ran, (settled.sound.staleOf_iff read).2 (noted.resolve_left ?_), ?_⟩
      · rw [nothing]
        exact List.not_mem_nil
      · intro key info found
        obtain ⟨known, inside⟩ := (settled.sound.get?_staleOf read).1 found
        exact (recent key info known inside).resolve_right
          (by rw [undegraded]; exact List.not_mem_nil)

/-- The tool brings nothing for the first wildcard, but then the one target that was known of its
package. -/
theorem Cache.resolveWithReport_complete_sample :
    let tool := Tool.listing [("//a:x", ["//a:x"]), ("//b:*", ["//b:y"])]
    let w := (Usage.flushed ["//a:x"]).ending tool
    ∃ report w', resolveWithReport tool .silent default ["//a:*", " //a:x", "//b:*"] w =
        .ok report w' ∧
      w'.cache.isCached " //a:x" = true ∧ (w'.cache.expansion? "//b:*").isSome = true ∧
      (w'.cache.staleOf "//a").isEmpty = false ∧ ∀ key info,
        (w'.cache.staleOf "//a").get? key = some info → w'.cache.current.get? key = some info := by
  intro tool w
  obtain ⟨report, w', returned⟩ := eq_ok_of_answer? (r := resolveWithReport tool .silent default
    ["//a:*", " //a:x", "//b:*"] w) (by decide +kernel)
  have complete : (answer? (resolveWithReport tool .silent default
      ["//a:*", " //a:x", "//b:*"] w)).map (·.complete) = some true := by decide +kernel
  have expansions : ["//a:*", "//b:*"].map (fun wildcard => ((stateAfter (resolveWithReport tool
      .silent default ["//a:*", " //a:x", "//b:*"] w)).cache.expansion? wildcard).isSome) =
        [false, true] := by decide +kernel
  rw [returned] at complete expansions
  obtain ⟨unknown, known⟩ := List.cons.inj expansions
  have law := resolveWithReport_complete (Usage.ending_reachable tool _)
    Monitor.silent_patient.toPassive returned (Option.some.inj complete)
  have single := (law " //a:x" (by decide) ⟨"", "a", some "x"⟩ (by decide +kernel)).1
    (by decide +kernel)
  have wild := (law "//a:*" (by decide) ⟨"", "a", some "*"⟩ (by decide +kernel)).2 (by decide +kernel)
  obtain ⟨_, something, current⟩ := wild.resolve_left (Bool.eq_false_iff.1 unknown)
  exact ⟨report, w', returned, single, (List.cons.inj known).1, something, current⟩

/-- A complete report, though no expansion of a requested wildcard is remembered. -/
theorem Cache.resolveWithReport_complete_unexpanded :
    let tool := Tool.listing [("//a:x", ["//a:x"])]
    let w := (Usage.flushed ["//a:x"]).ending tool
    let r := resolveWithReport tool .silent default ["//a:*", "//a:x"] w
    w.snapshot.Reachable tool ∧ (answer? r).map (·.complete) = some true ∧
      (stateAfter r).cache.expansion? "//a:*" = none := by
  intro tool w r
  refine ⟨Usage.ending_reachable tool _, ?_, ?_⟩ <;> decide +kernel

end WorkspaceImport
