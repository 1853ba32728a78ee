import WorkspaceImport.Proofs.Cache.Expansion
/-!
What a flush of some targets costs. If all that is requested was cached, then a call after the flush
runs the tool for flushed targets only, and a flushed target comes back in one of two ways: with a new
record that a run of this call brought, or as a last known record that is marked as such.
-/
namespace WorkspaceImport

/-- All records that the tool brings are of targets that stand for themselves. -/
def Tool.Plain (tool : Tool) : Prop :=
  ∀ earlier target records, (tool earlier target).outcome = .ok records →
    ∀ info ∈ records.values, ∃ label,
      Label.parse (canonicalLabel info.label) = .ok label ∧ label.isWildcard = false

/-- In a run after some others the tool brought a record of a target. -/
def Tool.Brings (tool : Tool) (before after : List String) (key : String) : Prop :=
  ∃ target earlier records, target :: earlier <:+ after ∧ before <:+ earlier ∧
    (tool earlier target).outcome = .ok records ∧
    ∃ info ∈ records.values, canonicalLabel info.label = key

namespace Cache

/-- All that a target needs is cached: its record, or, for a wildcard, an expansion to targets that
stand for themselves and the records of these. -/
def Covers (cache : Cache) (target : String) : Prop :=
  ∀ label, Label.parse target = .ok label →
    (label.isWildcard = false → cache.isCached target = true) ∧
    (label.isWildcard = true → ∃ members, cache.expansion? target = some members ∧
      ∀ sub ∈ members, cache.current.contains sub = true ∧
        ∃ inner, Label.parse sub = .ok inner ∧ inner.isWildcard = false)

/-- Of all that a target needs, only what was dropped is not cached. -/
structure Lacks (dropped : List String) (cache : Cache) (target : String) (label : Label) :
    Prop where
  single : label.isWildcard = false →
    target ∈ dropped ∨ cache.current.contains target = true
  unknown : label.isWildcard = true → cache.wildcards.get? target = none → target ∈ dropped
  known : label.isWildcard = true → ∀ members, cache.wildcards.get? target = some members →
    ∀ sub ∈ members, (sub ∈ dropped ∨ cache.current.contains sub = true) ∧
      ∃ inner, Label.parse sub = .ok inner ∧ inner.isWildcard = false

structure Within (c d : Cache) : Prop where
  current : ∀ key, c.current.contains key = true → d.current.contains key = true
  wildcards : d.wildcards = c.wildcards

theorem Within.trans {c d e : Cache} (first : c.Within d) (second : d.Within e) : c.Within e where
  current key present := second.current key (first.current key present)
  wildcards := second.wildcards.trans first.wildcards

theorem Lacks.within {dropped : List String} {c d : Cache} {target : String} {label : Label}
    (lacks : c.Lacks dropped target label) (within : c.Within d) :
    d.Lacks dropped target label where
  single plain := (lacks.single plain).imp_right (within.current target)
  unknown wild none := lacks.unknown wild (by rw [← within.wildcards]; exact none)
  known wild members found sub member := by
    rw [within.wildcards] at found
    obtain ⟨present, inner⟩ := lacks.known wild members found sub member
    exact ⟨present.imp_right (within.current sub), inner⟩

end Cache

/-- A call in which the tool was run for dropped targets only. Dropped targets that are cached again,
or are found, were brought by such a run, or are degraded. -/
structure Call.Restores {σ : Type} (tool : Tool) (dropped before : List String) (c : Call σ) :
    Prop where
  runs : ∃ runs, c.world.invocations = runs ++ before ∧ ∀ target ∈ runs, target ∈ dropped
  cached : ∀ key ∈ dropped, c.world.cache.current.contains key = true →
    tool.Brings before c.world.invocations key
  found : ∀ key ∈ dropped, c.report.infos.contains key = true →
    key ∈ c.report.degraded ∨ tool.Brings before c.world.invocations key

theorem Tool.Brings.mono {tool : Tool} {before after longer : List String} {key : String}
    (brings : tool.Brings before after key) (more : after <:+ longer) :
    tool.Brings before longer key := by
  obtain ⟨first, earlier, records, inside, rest⟩ := brings
  exact ⟨first, earlier, records, inside.trans more, rest⟩

theorem Tool.Brings.later {tool : Tool} {before after : List String} {key : String}
    (brings : tool.Brings before after key) (target : String) :
    tool.Brings before (target :: after) key :=
  brings.mono (List.suffix_cons target after)

namespace Call.Restores

variable {σ : Type} {tool : Tool} {origin : Origin} {dropped before : List String} {c : Call σ}
  {target : String}

theorem change (restores : c.Restores tool dropped before) {w : World σ}
    (alike : w.Alike c.world) : Restores tool dropped before { c with world := w } where
  runs := by
    rw [alike.invocations]
    exact restores.runs
  cached := by
    rw [alike.cache, alike.invocations]
    exact restores.cached
  found := by
    rw [alike.invocations]
    exact restores.found

theorem hit (restores : c.Restores tool dropped before) {info : PackageInfo}
    (there : c.world.cache.current.get? target = some info) :
    (c.hit origin target info).Restores tool dropped before where
  runs := restores.runs
  cached := restores.cached
  found key among present := by
    simp only [Call.hit, Report.addHit, OrderedMap.contains_insert, Bool.or_eq_true,
      decide_eq_true_eq] at present
    rcases present with rfl | earlier
    · exact .inr (restores.cached target among (OrderedMap.contains_iff.2 ⟨info, there⟩))
    · exact restores.found key among earlier

theorem learn (restores : c.Restores tool dropped before) (origin : Origin) {records : Records}
    (among : target ∈ dropped)
    (answered : (tool c.world.invocations target).outcome = .ok records) :
    (c.learn tool origin target records.values).Restores tool dropped before := by
  have invocations := Resolve.invocations_learn tool origin answered
  obtain ⟨runs, made, onlyDropped⟩ := restores.runs
  have brought {key : String} (new : (Records.canonical records.values).contains key = true) :
      tool.Brings before (target :: c.world.invocations) key := by
    obtain ⟨info, found⟩ := OrderedMap.contains_iff.1 new
    obtain ⟨member, own⟩ := Records.mem_of_get?_canonical found
    exact ⟨target, c.world.invocations, records, List.suffix_refl _, ⟨runs, made.symm⟩, answered,
      info, member, own⟩
  constructor
  · refine ⟨target :: runs, ?_, ?_⟩
    · rw [invocations, made, List.cons_append]
    · exact List.forall_mem_cons.2 ⟨among, onlyDropped⟩
  · intro key inside present
    rw [invocations]
    simp only [Call.learn, World.learn_cache, OrderedMap.contains_update, Bool.or_eq_true]
      at present
    rcases present with new | old
    · exact brought new
    · exact (restores.cached key inside old).later target
  · intro key inside present
    rw [invocations]
    by_cases new : (Records.canonical records.values).contains key = true
    · exact .inr (brought new)
    · simp only [Call.learn, Report.merge, OrderedMap.contains_update, new, Bool.false_or]
        at present
      refine (restores.found key inside present).imp ?_ fun old => old.later target
      intro degraded
      exact List.mem_filter.2 ⟨degraded, by simpa using new⟩

theorem degrade (restores : c.Restores tool dropped before) (info : PackageInfo) :
    (c.degrade origin target info).Restores tool dropped before where
  runs := restores.runs
  cached := restores.cached
  found key among present := by
    simp only [Call.degrade, Report.addDegraded, OrderedMap.contains_insert, Bool.or_eq_true,
      decide_eq_true_eq] at present
    rcases present with rfl | earlier
    · exact .inl (List.mem_append_right _ (List.mem_singleton.2 rfl))
    · exact (restores.found key among earlier).imp_left (List.mem_append_left _)

theorem degradeAll (restores : c.Restores tool dropped before) (stale : Records) :
    (c.degradeAll origin target stale).Restores tool dropped before where
  runs := restores.runs
  cached := restores.cached
  found key among present := by
    simp only [Call.degradeAll, Report.foldl_addDegraded, OrderedMap.contains_update,
      Bool.or_eq_true] at present ⊢
    rcases present with old | earlier
    · exact .inl (List.mem_append_right _ (OrderedMap.contains_iff_mem_keys.1 old))
    · exact (restores.found key among earlier).imp_left (List.mem_append_left _)

theorem fallBack (restores : c.Restores tool dropped before) :
    (c.fallBack origin target).Restores tool dropped before := by
  unfold Call.fallBack
  split
  next info _ => exact restores.degrade info
  next => exact ⟨restores.runs, restores.cached, restores.found⟩

theorem fallBackPackage (restores : c.Restores tool dropped before) (package : String) :
    (c.fallBackPackage origin target package).Restores tool dropped before := by
  simp only [Call.fallBackPackage]
  split
  next => exact ⟨restores.runs, restores.cached, restores.found⟩
  next => exact restores.degradeAll _

theorem answerLiteral (restores : c.Restores tool dropped before) {records : Records}
    (among : target ∈ dropped)
    (answered : (tool c.world.invocations target).outcome = .ok records) :
    (c.answerLiteral tool origin target records.values).Restores tool dropped before := by
  have learned := restores.learn origin among answered
  simp only [Call.answerLiteral]
  split
  next => exact ⟨learned.runs, learned.cached, learned.found⟩
  next =>
    split
    next => exact learned
    next => exact learned.fallBack

theorem answerWildcard (restores : c.Restores tool dropped before) {records : Records}
    (among : target ∈ dropped) (package : String)
    (answered : (tool c.world.invocations target).outcome = .ok records) :
    (c.answerWildcard tool origin target package records.values).Restores tool dropped before := by
  have learned := restores.learn origin among answered
  simp only [Call.answerWildcard]
  split
  next => exact learned.fallBackPackage package
  next => exact ⟨learned.runs, learned.cached, learned.found⟩

end Call.Restores

namespace Call

variable {σ : Type} {tool : Tool} {origin : Origin} (c : Call σ) {target : String}

theorem fallBack_cache : (c.fallBack origin target).world.cache = c.world.cache := by
  unfold fallBack
  split <;> rfl

theorem fallBackPackage_cache (package : String) :
    (c.fallBackPackage origin target package).world.cache = c.world.cache := by
  simp only [fallBackPackage]
  split <;> rfl

theorem within_learn (tool : Tool) (origin : Origin) (target : String) (infos : List PackageInfo) :
    c.world.cache.Within (c.learn tool origin target infos).world.cache where
  current key present := by
    simp only [learn, World.learn_cache, OrderedMap.contains_update, present, Bool.or_true]
  wildcards := by simp only [learn, World.learn_cache]

theorem answerLiteral_cache (infos : List PackageInfo) :
    (c.answerLiteral tool origin target infos).world.cache =
      (c.learn tool origin target infos).world.cache := by
  simp only [answerLiteral]
  split
  next => rfl
  next =>
    split
    next => rfl
    next => exact fallBack_cache _

theorem within_answerLiteral (infos : List PackageInfo) :
    c.world.cache.Within (c.answerLiteral tool origin target infos).world.cache := by
  rw [answerLiteral_cache]
  exact c.within_learn tool origin target infos

theorem lacks_answerWildcard (plain : tool.Plain) {dropped : List String} (package : String)
    {records : Records} (answered : (tool c.world.invocations target).outcome = .ok records)
    {other : String} {label : Label} (lacks : c.world.cache.Lacks dropped other label) :
    (c.answerWildcard tool origin target package records.values).world.cache.Lacks dropped other
      label := by
  have learned := lacks.within (c.within_learn tool origin target records.values)
  simp only [answerWildcard]
  split
  next =>
    rw [fallBackPackage_cache]
    exact learned
  next =>
    simp only [addComputed, remember, World.remember, Cache.remember]
    constructor
    · exact learned.single
    · intro wild none
      rw [OrderedMap.get?_insert] at none
      split at none
      next => cases none
      next => exact learned.unknown wild none
    · intro wild members found
      rw [OrderedMap.get?_insert] at found
      split at found
      next =>
        cases found
        intro sub inside
        obtain ⟨info, present⟩ :=
          OrderedMap.contains_iff.1 (OrderedMap.contains_iff_mem_keys.2 inside)
        obtain ⟨member, rfl⟩ := Records.mem_of_get?_canonical present
        refine ⟨.inr ?_, plain _ _ _ answered info member⟩
        simp only [learn, World.learn_cache, OrderedMap.contains_update,
          Records.contains_canonical member, Bool.true_or]
      next => exact learned.known wild members found

end Call

namespace Resolve

variable {σ : Type} {tool : Tool} {monitor : Monitor σ} {origin : Origin}
  {dropped before : List String} {c d : Call σ}

theorem reportWork_ok (passive : monitor.Passive) (returned : reportWork monitor c = .ok () d) :
    ∃ w, d = { c with world := w } ∧ w.Alike c.world := by
  obtain ⟨w, same, alike⟩ := passive.reportWork c
  rw [same] at returned
  cases returned
  exact ⟨w, rfl, alike⟩

theorem literal_restores (passive : monitor.Passive) {target : String}
    (restores : c.Restores tool dropped before)
    (there : target ∈ dropped ∨ c.world.cache.current.contains target = true)
    (returned : literal tool monitor origin target c = .ok () d) :
    d.Restores tool dropped before ∧ c.world.cache.Within d.world.cache := by
  cases cached : c.world.cache.current.get? target with
  | some info =>
    rw [literal_hit tool monitor origin cached] at returned
    obtain ⟨w, rfl, alike⟩ := reportWork_ok passive returned
    refine ⟨(restores.hit cached).change alike, ?_⟩
    rw [alike.cache]
    exact ⟨fun _ present => present, rfl⟩
  | none =>
    have among : target ∈ dropped := by
      refine there.resolve_right ?_
      rw [OrderedMap.contains, cached]
      exact Bool.false_ne_true
    cases said : (tool c.world.invocations target).outcome with
    | error f =>
      rw [literal_refused tool monitor origin cached said] at returned
      cases returned
    | ok records =>
      rw [literal_answered tool monitor origin cached said] at returned
      obtain ⟨w, rfl, alike⟩ := reportWork_ok passive returned
      refine ⟨(restores.answerLiteral among said).change alike, ?_⟩
      rw [alike.cache]
      exact c.within_answerLiteral records.values

theorem members_restore (passive : monitor.Passive) {depth : Nat} {visiting members : List String}
    (restores : c.Restores tool dropped before)
    (there : ∀ sub ∈ members, (sub ∈ dropped ∨ c.world.cache.current.contains sub = true) ∧
      ∃ inner, Label.parse sub = .ok inner ∧ inner.isWildcard = false)
    (returned : members.forM (member tool monitor origin depth visiting) c = .ok () d) :
    d.Restores tool dropped before ∧ c.world.cache.Within d.world.cache := by
  induction members generalizing c with
  | nil =>
    cases returned
    exact ⟨restores, fun _ present => present, rfl⟩
  | cons sub rest ih =>
    obtain ⟨b, first, others⟩ := Step.forM_cons_ok.1 returned
    obtain ⟨⟨needed, inner, read, single⟩, remaining⟩ := List.forall_mem_cons.1 there
    simp only [member, read, single, Bool.false_eq_true, if_false] at first
    obtain ⟨middle, grown⟩ := literal_restores passive restores needed first
    obtain ⟨last, grownOn⟩ := ih middle
      (fun sub member => ⟨(remaining sub member).1.imp_right (grown.current sub),
        (remaining sub member).2⟩) others
    exact ⟨last, grown.trans grownOn⟩

theorem wildcard_restores (passive : monitor.Passive) (plain : tool.Plain) {target : String}
    {inner label : Label} (read : Label.parse target = .ok inner) (wild : label.isWildcard = true)
    {depth : Nat} (restores : c.Restores tool dropped before)
    (lacks : c.world.cache.Lacks dropped target label)
    (returned : wildcard tool monitor origin (depth + 1) [] target c = .ok () d) :
    d.Restores tool dropped before ∧ ∀ other label',
      c.world.cache.Lacks dropped other label' → d.world.cache.Lacks dropped other label' := by
  have fresh : ([] : List String).contains target = false := rfl
  cases known : c.world.cache.wildcards.get? target with
  | some members =>
    rw [wildcard_remembered tool monitor origin depth fresh known] at returned
    obtain ⟨after, grown⟩ := members_restore passive restores (lacks.known wild members known)
      returned
    exact ⟨after, fun _ _ lacking => lacking.within grown⟩
  | none =>
    have among := lacks.unknown wild known
    cases said : (tool c.world.invocations target).outcome with
    | error f =>
      rw [wildcard_refused tool monitor origin depth fresh known said] at returned
      cases returned
    | ok records =>
      rw [wildcard_answered tool monitor origin depth fresh read known said] at returned
      obtain ⟨w, rfl, alike⟩ := reportWork_ok passive returned
      refine ⟨(restores.answerWildcard among inner.package said).change alike, ?_⟩
      intro other label' lacking
      rw [alike.cache]
      exact c.lacks_answerWildcard plain inner.package said lacking

theorem request_restores (passive : monitor.Passive) (plain : tool.Plain) {target : String}
    (restores : c.Restores tool dropped before)
    (lacks : ∀ label, Label.parse target = .ok label →
      c.world.cache.Lacks dropped (canonicalLabel target) label)
    (returned : request tool monitor origin target c = .ok () d) :
    d.Restores tool dropped before ∧ ∀ other label,
      c.world.cache.Lacks dropped other label → d.world.cache.Lacks dropped other label := by
  obtain ⟨canceled, w, asked, alike⟩ := passive.isCanceled c.world
  rw [request_eq, asked] at returned
  cases canceled with
  | true => cases returned
  | false =>
    cases read : Label.parse target with
    | error fault =>
      simp only [read] at returned
      cases returned
    | ok label =>
      have lacking := lacks label read
      rw [canonicalLabel, read, ← alike.cache] at lacking
      simp only [read] at returned
      rw [← alike.cache]
      cases wild : label.isWildcard with
      | true =>
        rw [if_pos wild] at returned
        exact wildcard_restores passive plain (Label.parse_canonical read) wild
          (restores.change alike) lacking returned
      | false =>
        rw [wild, if_neg Bool.false_ne_true] at returned
        obtain ⟨after, grown⟩ := literal_restores passive (restores.change alike)
          (lacking.single wild) returned
        exact ⟨after, fun _ _ lacked => lacked.within grown⟩

theorem requests_restore (passive : monitor.Passive) (plain : tool.Plain) {targets : List String}
    (restores : c.Restores tool dropped before)
    (lacks : ∀ target ∈ targets, ∀ label, Label.parse target = .ok label →
      c.world.cache.Lacks dropped (canonicalLabel target) label)
    (returned : requests tool monitor origin targets c = .ok () d) :
    d.Restores tool dropped before := by
  induction targets generalizing c with
  | nil =>
    cases returned
    exact restores
  | cons target rest ih =>
    obtain ⟨b, first, others⟩ := Step.forM_cons_ok.1 returned
    obtain ⟨needed, remaining⟩ := List.forall_mem_cons.1 lacks
    obtain ⟨middle, kept⟩ := request_restores passive plain restores needed first
    exact ih middle (fun other member label read => kept _ label (remaining other member label read))
      others

end Resolve

namespace Cache

variable {σ : Type} {tool : Tool}

theorem flushFor_cache {dropped : List String} {w v : World σ}
    (flushed : flushFor dropped w = .ok () v) :
    v.invocations = w.invocations ∧
      (∀ key, v.cache.current.get? key =
        if key ∈ dropped.map canonicalLabel then none else w.cache.current.get? key) ∧
      ∀ key, v.cache.wildcards.get? key =
        if key ∈ dropped.map canonicalLabel then none else w.cache.wildcards.get? key := by
  have left : v = dropped.foldl World.drop w := by
    cases flushed
    rfl
  subst left
  clear flushed
  induction dropped generalizing w with
  | nil => simp
  | cons target rest ih =>
    obtain ⟨invocations, current, wildcards⟩ := @ih (w.drop target)
    have turned {ν : Type} {found : Option ν} (key : String) :
        (if key ∈ rest.map canonicalLabel then none
          else if canonicalLabel target = key then none else found) =
        if key ∈ (target :: rest).map canonicalLabel then none else found := by
      by_cases first : canonicalLabel target = key
      · simp [first]
      · have differ : ¬key = canonicalLabel target := fun same => first same.symm
        simp [first, differ]
    refine ⟨invocations, ?_, ?_⟩
    · intro key
      rw [List.foldl_cons, current, World.drop, Cache.drop, OrderedMap.get?_erase, turned]
    · intro key
      rw [List.foldl_cons, wildcards, World.drop, Cache.drop, OrderedMap.get?_erase, turned]

theorem Covers.lacks {dropped : List String} {w v : World σ} {target : String} {label : Label}
    (covers : w.cache.Covers target) (read : Label.parse target = .ok label)
    (flushed : flushFor dropped w = .ok () v) :
    v.cache.Lacks (dropped.map canonicalLabel) (canonicalLabel target) label := by
  obtain ⟨_, current, wildcards⟩ := flushFor_cache flushed
  have kept (key : String) (present : w.cache.current.contains key = true) :
      key ∈ dropped.map canonicalLabel ∨ v.cache.current.contains key = true := by
    by_cases among : key ∈ dropped.map canonicalLabel
    · exact .inl among
    · rw [OrderedMap.contains, current, if_neg among]
      exact .inr present
  obtain ⟨single, wild⟩ := covers label read
  constructor
  · exact fun plain => kept _ (single plain)
  · intro star none
    obtain ⟨members, found, _⟩ := wild star
    rw [wildcards] at none
    by_contra outside
    rw [if_neg outside, ← expansion?, found] at none
    cases none
  · intro star members found sub inside
    obtain ⟨members', found', all⟩ := wild star
    rw [wildcards] at found
    split at found
    next => cases found
    next =>
      rw [← expansion?, found'] at found
      cases found
      exact ⟨kept sub (all sub inside).1, (all sub inside).2⟩

/-- If all that is requested was cached before a flush of some targets, then the call after the flush
runs the tool for flushed targets only, and every flushed target that it finds was brought by one of
its runs or is degraded. -/
theorem resolveWithReport_flushFor {monitor : Monitor σ} {origin : Origin}
    {dropped targets : List String} {w v w' : World σ} {report : Report} (plain : tool.Plain)
    (passive : monitor.Passive) (covered : ∀ target ∈ targets, w.cache.Covers target)
    (flushed : flushFor dropped w = .ok () v)
    (returned : resolveWithReport tool monitor origin targets v = .ok report w') :
    (∃ runs, w'.invocations = runs ++ v.invocations ∧
      ∀ target ∈ runs, target ∈ dropped.map canonicalLabel) ∧
    ∀ key ∈ dropped.map canonicalLabel, report.infos.contains key = true →
      key ∈ report.degraded ∨ tool.Brings v.invocations w'.invocations key := by
  obtain ⟨u, c, u', started, run, ended, rfl, rfl⟩ := resolveWithReport_ok returned
  have begun := passive.alike_of_subTask started
  have start : Call.Restores tool (dropped.map canonicalLabel) v.invocations ⟨.empty, u⟩ := {
    runs := ⟨[], begun.invocations, fun _ member => by cases member⟩
    cached := by
      intro key among present
      rw [OrderedMap.contains, begun.cache, (flushFor_cache flushed).2.1, if_pos among] at present
      cases present
    found := fun _ _ present => by cases present }
  have restores := Resolve.requests_restore passive plain start
    (fun target member label read => by
      rw [begun.cache]
      exact (covered target member).lacks read flushed) run
  have alike := (World.Alike.tell u' (Resolve.warnings origin c.report)).trans
    (passive.alike_of_worked ended)
  rw [alike.invocations]
  exact ⟨restores.runs, restores.found⟩

end Cache

theorem Tool.listing_plain {table : List (String × List String)}
    (singles : ∀ e ∈ table, ∀ target ∈ e.2,
      (Label.parse (canonicalLabel target)).toOption.any (fun label => !label.isWildcard) = true) :
    (listing table).Plain := by
  intro earlier target records answered info member
  cases answered
  obtain ⟨e, among, listed⟩ := Tool.mem_listed member
  exact Label.exists_single (singles e among info.label listed)

/-- A wildcard with two members, both of which are dropped: the tool brings one of them again, and
has nothing for the other. The third text is no label. -/
theorem Cache.resolveWithReport_flushFor_sample :
    let tool := Tool.listing [("//a:*", ["//a:x", "//a:y"]), ("//a:x", ["//a:x"])]
    let w := (Usage.resolving ["//a:*"]).ending tool
    ∃ report : Report, ∃ v w' : World (List Snapshot),
      flushFor ["//a:x", " //a:y", "?"] w = .ok () v ∧
      resolveWithReport tool .silent default ["//a:*"] v = .ok report w' ∧
      (∃ runs, w'.invocations = runs ++ v.invocations ∧ runs.length = 2 ∧
        ∀ target ∈ runs, target ∈ ["//a:x", "//a:y", "?"]) ∧
      report.degraded = ["//a:y"] ∧ tool.Brings v.invocations w'.invocations "//a:x" := by
  intro tool w
  let dropped := ["//a:x", " //a:y", "?"]
  let v := dropped.foldl World.drop w
  have flushed (u : World (List Snapshot)) :
      flushFor dropped u = .ok () (dropped.foldl World.drop u) := rfl
  have plain : tool.Plain := Tool.listing_plain (by decide +kernel)
  have covered : ∀ target ∈ ["//a:*"], w.cache.Covers target := by
    intro target member label read
    have star : Label.parse "//a:*" = .ok ⟨"", "a", some "*"⟩ := by decide +kernel
    rw [List.mem_singleton.1 member] at read ⊢
    rw [star] at read
    cases read
    have members : ∀ sub ∈ ["//a:x", "//a:y"], w.cache.current.contains sub = true ∧
        (Label.parse sub).toOption.any (fun inner => !inner.isWildcard) = true := by
      decide +kernel
    refine ⟨fun single => by revert single; decide +kernel, fun _ => ⟨["//a:x", "//a:y"], ?_, ?_⟩⟩
    · decide +kernel
    · exact fun sub inside => ⟨(members sub inside).1, Label.exists_single (members sub inside).2⟩
  obtain ⟨report, w', returned⟩ := eq_ok_of_answer?
    (r := resolveWithReport tool .silent default ["//a:*"] v) (by decide +kernel)
  have seen : (answer? (resolveWithReport tool .silent default ["//a:*"] v)).map
      (fun report => (report.degraded, report.infos.contains "//a:x")) =
        some (["//a:y"], true) := by decide +kernel
  have length : (stateAfter
      (resolveWithReport tool .silent default ["//a:*"] v)).invocations.length =
        2 + v.invocations.length := by decide +kernel
  have names : dropped.map canonicalLabel = ["//a:x", "//a:y", "?"] := by decide +kernel
  obtain ⟨⟨runs, made, all⟩, law⟩ := resolveWithReport_flushFor plain
    Monitor.silent_patient.toPassive covered (flushed w) returned
  rw [names] at all law
  rw [returned] at seen length
  obtain ⟨degraded, found⟩ := Prod.mk.inj (Option.some.inj seen)
  rw [stateAfter, made, List.length_append] at length
  refine ⟨report, v, w', flushed w, returned, ⟨runs, made, Nat.add_right_cancel length, all⟩,
    degraded, ?_⟩
  refine (law "//a:x" List.mem_cons_self found).resolve_left ?_
  rw [degraded]
  decide +kernel

end WorkspaceImport
