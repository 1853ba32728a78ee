import WorkspaceImport.Proofs.Cache.Complete
import WorkspaceImport.Proofs.Cache.Once
/-!
Calls that never fall back. If the tool brings something for every target that it is asked for, and
nothing but targets that stand for themselves, then all that a call is about is cached at its end,
and the report has the same records.
-/
namespace WorkspaceImport

namespace Event

/-- Whether something older, or nothing at all, had to do in the place of what the tool did not
bring. -/
def fallsBack : Event → Bool
  | .stale .. | .failed .. | .told (.stalePackage ..) => true
  | _ => false

end Event

/-- A text that is read as a target that stands for itself. -/
def NamesTarget (s : String) : Prop :=
  ∃ label, Label.parse s = .ok label ∧ label.isWildcard = false

/-- Whoever watches passively and strikes nothing out of the journal. -/
structure Monitor.Onlooks {σ : Type} (monitor : Monitor σ) : Prop extends monitor.Passive where
  adds : ∀ journal, monitor.Keeps fun w => journal <:+ w.journal

/-- The journal tells of every known target that it was brought, and expansions are of known
targets. -/
structure Snapshot.Documented (s : Snapshot) : Prop where
  known : ∀ key, s.cache.lastGood.contains key = true → ∃ e ∈ s.journal, e.produces key = true
  members : ∀ wildcard targets, s.cache.wildcards.get? wildcard = some targets →
    ∀ target ∈ targets, s.cache.lastGood.contains target = true

/-- A session that fell back no more often than a number of times, and in which nothing was brought
but targets that stand for themselves. -/
structure World.Smooth {σ : Type} (n : Nat) (w : World σ) : Prop where
  fallbacks : w.journal.countP Event.fallsBack ≤ n
  plain : ∀ e ∈ w.journal, ∀ key, e.produces key = true → NamesTarget key

section Journal

variable {σ : Type} {tool : Tool} {monitor : Monitor σ} {origin : Origin} {v w : World σ} {n : Nat}

theorem Monitor.Onlooks.keeps (onlooks : monitor.Onlooks) {J : World σ → Prop}
    (grown : ∀ v w : World σ, w.cache = v.cache → v.journal <:+ w.journal → J v → J w) :
    monitor.Keeps J where
  subTask text w start := by
    have later := (onlooks.adds w.journal).subTask text w (List.suffix_refl _)
    obtain ⟨v, returned, alike⟩ := onlooks.subTask text w
    rw [returned] at later ⊢
    exact grown w v alike.cache later start
  worked units w start := by
    have later := (onlooks.adds w.journal).worked units w (List.suffix_refl _)
    obtain ⟨v, returned, alike⟩ := onlooks.worked units w
    rw [returned] at later ⊢
    exact grown w v alike.cache later start
  isCanceled w start := by
    have later := (onlooks.adds w.journal).isCanceled w (List.suffix_refl _)
    obtain ⟨canceled, v, returned, alike⟩ := onlooks.isCanceled w
    rw [returned] at later ⊢
    exact grown w v alike.cache later start

theorem Monitor.silent_onlooks : (silent : Monitor σ).Onlooks where
  toPassive := Monitor.silent_patient.toPassive
  adds _ := Monitor.silent_keeps _

theorem World.produced_learn (w : World σ) (target : String) {infos : List PackageInfo}
    {info : PackageInfo} (member : info ∈ infos) :
    ∃ e ∈ (w.learn tool origin target infos).journal,
      e.produces (canonicalLabel info.label) = true := by
  rw [World.learn]
  generalize w.ask tool origin target = v
  induction infos generalizing v with
  | nil => cases member
  | cons first rest ih =>
    rcases List.mem_cons.1 member with rfl | later
    · have produced : Event.produced (canonicalLabel info.label) info origin ∈
          (v.produce origin info).journal := List.mem_cons_self
      exact ⟨_, (World.suffix_foldl_produce rest _).subset produced, beq_self_eq_true _⟩
    · exact ih later _

theorem Effect.documented (effect : Effect tool v w) (documented : v.snapshot.Documented) :
    w.snapshot.Documented := by
  have old {key : String} (known : v.cache.lastGood.contains key = true) :
      ∃ e ∈ w.journal, e.produces key = true := by
    obtain ⟨e, member, produces⟩ := documented.known key known
    exact ⟨e, effect.suffix.subset member, produces⟩
  have grown {key : String} (known : v.cache.lastGood.contains key = true) :
      w.cache.lastGood.contains key = true := effect.contains_lastGood known
  constructor
  · intro key known
    cases effect with
    | idle | hit | remembered | flushed | dropped => exact old known
    | refused origin _ =>
      simp only [World.snapshot, World.ask_cache] at known
      exact old known
    | @learned origin target records _ =>
      simp only [World.snapshot, World.learn_cache, OrderedMap.contains_update,
        Bool.or_eq_true] at known
      rcases known with new | before
      · obtain ⟨info, found⟩ := OrderedMap.contains_iff.1 new
        obtain ⟨member, rfl⟩ := Records.mem_of_get?_canonical found
        exact v.produced_learn target member
      · exact old before
  · intro wildcard targets found target member
    have before (there : v.cache.wildcards.get? wildcard = some targets) :=
      grown (documented.members wildcard targets there target member)
    cases effect with
    | idle | hit => exact before found
    | refused origin _ =>
      simp only [World.snapshot, World.ask_cache] at found
      exact before found
    | learned origin _ =>
      simp only [World.snapshot, World.learn_cache] at found
      exact before found
    | remembered _ _ known =>
      simp only [World.snapshot, World.remember, Cache.remember, OrderedMap.get?_insert] at found
      split at found
      next =>
        cases found
        exact known target member
      next => exact before found
    | flushed => cases found
    | dropped other =>
      simp only [World.snapshot, World.drop, Cache.drop, OrderedMap.get?_erase] at found
      split at found
      next => cases found
      next => exact before found

theorem Snapshot.Reachable.documented {s : Snapshot} (reached : s.Reachable tool) :
    s.Documented := by
  refine reached.keep (I := Snapshot.Documented) ?_ fun _ _ effect => effect.documented
  constructor
  · intro key known
    cases known
  · intro wildcard targets found
    cases found

theorem Monitor.Onlooks.documented (onlooks : monitor.Onlooks) :
    monitor.Keeps fun w => w.snapshot.Documented := by
  apply onlooks.keeps
  intro v w same later ⟨known, members⟩
  constructor
  · intro key there
    simp only [World.snapshot, same] at there
    obtain ⟨e, member, produces⟩ := known key there
    exact ⟨e, later.subset member, produces⟩
  · simp only [World.snapshot, same]
    exact members

namespace World.Smooth

theorem earlier (smooth : w.Smooth n) (later : v.journal <:+ w.journal) : v.Smooth n where
  fallbacks := Nat.le_trans (later.sublist.countP_le) smooth.fallbacks
  plain e member := smooth.plain e (later.subset member)

theorem not_log {e : Event} (falls : e.fallsBack = true)
    (before : n ≤ w.journal.countP Event.fallsBack) : ¬(w.log e).Smooth n := by
  intro smooth
  have counted := smooth.fallbacks
  rw [World.log, List.countP_cons_of_pos falls] at counted
  omega

theorem members (smooth : w.Smooth n) (documented : w.snapshot.Documented) {wildcard : String}
    {targets : List String} (found : w.cache.wildcards.get? wildcard = some targets) :
    ∀ target ∈ targets, NamesTarget target := by
  intro target member
  obtain ⟨e, inside, produces⟩ :=
    documented.known target (documented.members wildcard targets found target member)
  exact smooth.plain e inside target produces

end World.Smooth

end Journal

section Turns

variable {σ : Type} {tool : Tool} {monitor : Monitor σ} {origin : Origin} {c d : Call σ} {n : Nat}

/-- As long as the session is smooth, nothing is degraded or missing. -/
structure Call.Unmarked (n : Nat) (c : Call σ) : Prop where
  before : n ≤ c.world.journal.countP Event.fallsBack
  marks : c.world.Smooth n → c.report.degraded = [] ∧ c.report.missing = []

theorem Moves.suffix (onlooks : monitor.Onlooks) (moves : Moves tool monitor origin c d) :
    c.world.journal <:+ d.world.journal :=
  moves.keep_world (J := fun w => c.world.journal <:+ w.journal)
    (fun _ _ effect start => start.trans effect.suffix) (onlooks.adds _) (List.suffix_refl _)

theorem Move.unmarked (onlooks : monitor.Onlooks) (move : Move tool monitor origin c d)
    (unmarked : c.Unmarked n) : d.Unmarked n := by
  have later := Moves.suffix onlooks (.single move)
  refine ⟨Nat.le_trans unmarked.before later.sublist.countP_le, fun smooth => ?_⟩
  obtain ⟨degraded, missing⟩ := unmarked.marks (smooth.earlier later)
  cases move with
  | hit | refused | computed | remembered | worked | asked => exact ⟨degraded, missing⟩
  | learned _ =>
    simp only [Call.learn, Report.merge, degraded, missing, List.filter_nil, and_self]
  -- The other moves fall back and write it down, for which a smooth session has no room.
  | degraded | missed | missedAll =>
    exact absurd smooth (World.Smooth.not_log rfl unmarked.before)
  | degradedAll _ => exact absurd smooth (World.Smooth.not_log rfl unmarked.before)

theorem Turn.answers (turn : Turn tool monitor origin c d) {target : String}
    (answers : c.report.Answers target) : d.report.Answers target :=
  turn.moves.keep (I := fun c => c.report.Answers target) (fun _ _ move => move.answers) answers

def Call.Expands (wildcard : String) (c : Call σ) : Prop :=
  ∃ members, c.world.cache.expansion? wildcard = some members ∧
    ∀ sub ∈ members, c.report.Answers sub

theorem Turn.expands (passive : monitor.Passive) {wildcard : String}
    (turn : Turn tool monitor origin c d) (expands : c.Expands wildcard) : d.Expands wildcard := by
  obtain ⟨members, known, answered⟩ := expands
  have still : d.world.cache.expansion? wildcard = some members :=
    turn.keep (remembered_resolving (canonicalLabel wildcard) members)
      (passive.keeps fun cache => cache.expansions (canonicalLabel wildcard) members) known
  exact ⟨members, still, fun sub member => turn.answers (answered sub member)⟩

end Turns

namespace Resolve

variable {σ : Type} {tool : Tool} {monitor : Monitor σ} {origin : Origin} {c d : Call σ} {n : Nat}

theorem members_answer {depth : Nat} {visiting members : List String}
    (single : ∀ sub ∈ members, NamesTarget sub)
    (returned : members.forM (member tool monitor origin depth visiting) c = .ok () d) :
    ∀ sub ∈ members, d.report.Answers sub := by
  refine Call.Chain.forM_all (R := Turn tool monitor origin) (I := fun _ => True)
    (P := fun sub d => d.report.Answers sub)
    (fun sub c => member_turns tool monitor origin (fun read wild c =>
      wildcard_turns tool monitor origin depth visiting read wild c) sub c)
    (fun _ _ _ held => held) (fun _ _ _ turn => turn.answers) ?_ trivial returned
  intro sub inside c d _ run
  obtain ⟨label, read, plain⟩ := single sub inside
  simp only [member, read, plain, Bool.false_eq_true, if_false] at run
  exact literal_answers run

theorem answerWildcard_expands {wildcard package : String} (spelled : canonicalLabel wildcard = wildcard)
    {records : Records} (before : n ≤ c.world.journal.countP Event.fallsBack)
    (smooth : (c.answerWildcard tool origin wildcard package records.values).world.Smooth n) :
    (c.answerWildcard tool origin wildcard package records.values).Expands wildcard := by
  have learned : c.world.journal <:+ (c.learn tool origin wildcard records.values).world.journal :=
    c.world.suffix_learn wildcard records.values
  have enough := Nat.le_trans before (learned.sublist.countP_le (p := Event.fallsBack))
  simp only [Call.answerWildcard] at smooth ⊢
  split at smooth
  next barren =>
    simp only [Call.fallBackPackage] at smooth
    split at smooth
    next => exact absurd smooth (World.Smooth.not_log rfl enough)
    next => exact absurd smooth (World.Smooth.not_log rfl enough)
  next some =>
    rw [if_neg some]
    refine ⟨(Records.canonical records.values).keys, ?_, ?_⟩
    · simp [Call.addComputed, Call.remember, World.remember, Cache.remember, Cache.expansion?,
        spelled]
    · exact fun sub member => .inl (contains_learn_infos tool origin c wildcard member)

theorem wildcard_expands (onlooks : monitor.Onlooks) {depth : Nat} {target : String} {label : Label}
    (documented : c.world.snapshot.Documented) (before : n ≤ c.world.journal.countP Event.fallsBack)
    (spelled : canonicalLabel target = target) (read : Label.parse target = .ok label)
    (wild : label.isWildcard = true)
    (returned : wildcard tool monitor origin (depth + 1) [] target c = .ok () d)
    (smooth : d.world.Smooth n) : d.Expands target := by
  cases known : c.world.cache.wildcards.get? target with
  | some members =>
    have turns : Turns tool monitor origin c d :=
      (wildcard_turns tool monitor origin (depth + 1) [] read wild c).of_ok returned
    have single := (smooth.earlier (Moves.suffix onlooks turns.moves)).members documented known
    rw [wildcard_remembered tool monitor origin depth rfl known] at returned
    refine ⟨members, ?_, members_answer single returned⟩
    rw [Cache.expansion?, spelled]
    exact turns.keep_world (remembered_resolving target members)
      (onlooks.toPassive.keeps fun cache => cache.expansions target members) known
  | none =>
    cases said : (tool c.world.invocations target).outcome with
    | error f =>
      rw [wildcard_refused tool monitor origin depth rfl known said] at returned
      cases returned
    | ok records =>
      rw [wildcard_answered tool monitor origin depth rfl read known said] at returned
      have turns : Turns tool monitor origin _ d :=
        (reportWork_turns tool monitor origin _).of_ok returned
      exact turns.keep (fun _ _ turn => turn.expands onlooks.toPassive)
        (answerWildcard_expands spelled before
          (smooth.earlier (Moves.suffix onlooks turns.moves)))

theorem request_expands (onlooks : monitor.Onlooks) {target : String} {label : Label}
    (documented : c.world.snapshot.Documented) (before : n ≤ c.world.journal.countP Event.fallsBack)
    (read : Label.parse target = .ok label) (wild : label.isWildcard = true)
    (returned : request tool monitor origin target c = .ok () d) (smooth : d.world.Smooth n) :
    d.Expands target := by
  have spelled : canonicalLabel target = label.canonical.text := by
    rw [canonicalLabel, read]
  have same : canonicalLabel (canonicalLabel target) = canonicalLabel target :=
    canonicalLabel_canonicalLabel target
  have first : Turn tool monitor origin c _ := .asked c
  have onward := Moves.suffix onlooks first.moves
  have kept := onlooks.documented.isCanceled c.world documented
  rw [request_eq] at returned
  split at returned
  next => cases returned
  next => cases returned
  next w went =>
    simp only [went, stateAfter] at onward kept
    simp only [read, wild, if_true, ← spelled] at returned
    obtain ⟨members, known, answered⟩ := wildcard_expands (c := { c with world := w }) onlooks kept
      (Nat.le_trans before onward.sublist.countP_le) same (parse_canonicalLabel read)
      (Label.isWildcard_canonical wild) returned smooth
    rw [Cache.expansion?, same] at known
    exact ⟨members, known, answered⟩

theorem requests_expand (onlooks : monitor.Onlooks) {targets : List String}
    (documented : c.world.snapshot.Documented) (before : n ≤ c.world.journal.countP Event.fallsBack)
    (returned : requests tool monitor origin targets c = .ok () d) :
    ∀ target ∈ targets, ∃ label, Label.parse target = .ok label ∧
      (label.isWildcard = true → d.world.Smooth n → d.Expands target) := by
  apply Call.Chain.forM_all (R := Turn tool monitor origin)
    (I := fun c => c.world.snapshot.Documented ∧ n ≤ c.world.journal.countP Event.fallsBack)
    (P := fun target d => ∃ label, Label.parse target = .ok label ∧
      (label.isWildcard = true → d.world.Smooth n → d.Expands target))
    (request_turns tool monitor origin) _ _ _ ⟨documented, before⟩ returned
  · intro c d turn ⟨documented, before⟩
    exact ⟨turn.moves.keep_world (J := fun w => w.snapshot.Documented)
      (fun _ _ effect => effect.documented) onlooks.documented documented,
      Nat.le_trans before (Moves.suffix onlooks turn.moves).sublist.countP_le⟩
  · rintro target c d turn ⟨label, read, expands⟩
    refine ⟨label, read, fun wild smooth => turn.expands onlooks.toPassive (expands wild ?_)⟩
    exact smooth.earlier (Moves.suffix onlooks turn.moves)
  · intro target _ c d ⟨documented, before⟩ run
    cases read : Label.parse target with
    | ok label =>
      exact ⟨label, rfl, fun wild => request_expands onlooks documented before read wild run⟩
    | error fault =>
      rw [request_eq] at run
      simp only [read] at run
      split at run <;> cases run

end Resolve

namespace Cache

variable {σ : Type} {tool : Tool} {monitor : Monitor σ} {origin : Origin}

/-- The targets whose records are asked for with a target: its own one, or those to which a wildcard
was expanded. -/
def standsFor (cache : Cache) (target : String) : List String :=
  match Label.parse target with
  | .error _ => []
  | .ok label =>
    if label.isWildcard then (cache.expansion? target).getD [] else [canonicalLabel target]

theorem standsFor_literal {cache : Cache} {target : String} {label : Label}
    (read : Label.parse target = .ok label) (single : label.isWildcard = false) :
    cache.standsFor target = [canonicalLabel target] := by
  simp only [standsFor, read, single, Bool.false_eq_true, if_false]

theorem standsFor_wildcard {cache : Cache} {target : String} {label : Label} {members : List String}
    (read : Label.parse target = .ok label) (wild : label.isWildcard = true)
    (known : cache.expansion? target = some members) : cache.standsFor target = members := by
  simp only [standsFor, read, wild, if_true, known, Option.getD_some]

theorem covers_literal {cache : Cache} {target : String} {label : Label}
    (read : Label.parse target = .ok label) (single : label.isWildcard = false)
    (cached : cache.isCached target = true) : cache.Covers target := by
  intro label' same
  obtain rfl : label = label' := Except.ok.inj (read.symm.trans same)
  exact ⟨fun _ => cached, fun wild => Bool.noConfusion (single.symm.trans wild)⟩

theorem covers_wildcard {cache : Cache} {target : String} {label : Label} {members : List String}
    (read : Label.parse target = .ok label) (wild : label.isWildcard = true)
    (known : cache.expansion? target = some members)
    (cached : ∀ sub ∈ members, cache.current.contains sub = true ∧ NamesTarget sub) :
    cache.Covers target := by
  intro label' same
  obtain rfl : label = label' := Except.ok.inj (read.symm.trans same)
  exact ⟨fun single => Bool.noConfusion (single.symm.trans wild), fun _ => ⟨members, known, cached⟩⟩

theorem requests_covered {targets : List String} {w v : World σ} {d : Call σ}
    (reached : w.snapshot.Reachable tool) (onlooks : monitor.Onlooks)
    (started : monitor.subTask resolveTask w = .ok () v)
    (run : Resolve.requests tool monitor origin targets ⟨.empty, v⟩ = .ok () d)
    (smooth : d.world.Smooth (w.journal.countP Event.fallsBack)) :
    (∀ target ∈ targets, (∃ label, Label.parse target = .ok label) ∧
      d.world.cache.Covers target ∧
      ∀ key ∈ d.world.cache.standsFor target, d.report.infos.contains key = true) ∧
    ∀ key info, d.report.infos.get? key = some info → d.world.cache.current.get? key = some info := by
  have passive := onlooks.toPassive
  have begun : w.journal <:+ v.journal :=
    ((onlooks.adds w.journal).subTask resolveTask).ok started (List.suffix_refl _)
  have enough : w.journal.countP Event.fallsBack ≤ v.journal.countP Event.fallsBack :=
    begun.sublist.countP_le
  have known : v.snapshot.Documented :=
    (onlooks.documented.subTask resolveTask).ok started reached.documented
  have turns : Turns tool monitor origin ⟨.empty, v⟩ d :=
    (Resolve.requests_turns tool monitor origin targets _).of_ok run
  have documented : d.world.snapshot.Documented :=
    turns.moves.keep_world (J := fun w => w.snapshot.Documented)
      (fun _ _ effect => effect.documented) onlooks.documented known
  obtain ⟨undegraded, nothing⟩ := (turns.moves.keep (fun _ _ move => move.unmarked onlooks)
    ⟨enough, fun _ => ⟨rfl, rfl⟩⟩ : d.Unmarked _).marks smooth
  -- Without marks, what was answered was found, and what was found is current.
  have found {key : String} (answers : d.report.Answers key) :
      d.report.infos.contains key = true :=
    answers.resolve_right (by rw [nothing]; exact List.not_mem_nil)
  have current : d.Current := turns.moves.keep (fun _ _ move => move.current passive)
    fun _ present => by cases present
  have cached {key : String} (present : d.report.infos.contains key = true) :
      d.world.cache.current.contains key = true :=
    (current key present).resolve_right (by rw [undegraded]; exact List.not_mem_nil)
  have settled := requests_settled reached.sound passive.spares started run
  constructor
  · intro target member
    obtain ⟨label, read, expands⟩ :=
      Resolve.requests_expand onlooks known enough run target member
    refine ⟨⟨label, read⟩, ?_⟩
    cases wild : label.isWildcard with
    | false =>
      have single := found (Resolve.requests_answers run target member label read wild)
      rw [standsFor_literal read wild]
      exact ⟨covers_literal read wild (cached single), List.forall_mem_singleton.2 single⟩
    | true =>
      obtain ⟨members, expansion, answered⟩ := expands wild smooth
      have inside (sub : String) (among : sub ∈ members) :
          d.report.infos.contains sub = true := found (answered sub among)
      have plain := smooth.members documented expansion
      rw [standsFor_wildcard read wild expansion]
      exact ⟨covers_wildcard read wild expansion fun sub among =>
        ⟨cached (inside sub among), plain sub among⟩, inside⟩
  -- The records agree because both are the last ones known.
  · intro key info present
    obtain ⟨info', there⟩ :=
      OrderedMap.contains_iff.1 (cached (OrderedMap.contains_iff.2 ⟨info, present⟩))
    rw [there, ← settled.found key info present, settled.sound.known key info' there]

end Cache

end WorkspaceImport
