import WorkspaceImport.Proofs.Cache.Expansion
import WorkspaceImport.Proofs.Cache.Settled
/-!
What one who watches a resolution hears. Before each requested target there is the question whether to
cancel, and after each target that was answered, on its own or as a member of an expansion, the number
of records there are then. No expansion that is remembered is empty, so every requested target is
heard of; and a report only ever gets more records, so the numbers never go down.
-/
namespace WorkspaceImport

/-! Expansions that stand for something -/

def Cache.Populated (c : Cache) : Prop :=
  ∀ wildcard targets, c.wildcards.get? wildcard = some targets → targets ≠ []

theorem Effect.populated {σ : Type} {tool : Tool} {v w : World σ} (effect : Effect tool v w)
    (earlier : v.cache.Populated) : w.cache.Populated := by
  intro wildcard targets found
  obtain before | ⟨some, -⟩ := effect.expansion found
  · exact earlier wildcard targets before
  · exact some

theorem Snapshot.Reachable.populated {tool : Tool} {s : Snapshot} (reached : s.Reachable tool) :
    s.cache.Populated :=
  reached.keep (I := fun s => s.cache.Populated) (fun _ _ found => by cases found)
    fun _ _ effect => effect.populated

/-! Reports that grow -/

def Report.Grows (r s : Report) : Prop :=
  r.infos.keys <+: s.infos.keys

namespace Report

variable {r s t : Report}

theorem Grows.refl (r : Report) : r.Grows r :=
  List.prefix_rfl

theorem Grows.trans (first : r.Grows s) (second : s.Grows t) : r.Grows t :=
  List.IsPrefix.trans first second

theorem Grows.size_le (grows : r.Grows s) : r.infos.size ≤ s.infos.size := by
  simpa [OrderedMap.size, OrderedMap.keys] using grows.length_le

theorem grows_foldl_addDegraded (entries : List (String × PackageInfo)) (r : Report) :
    r.Grows (entries.foldl (fun r e => r.addDegraded e.1 e.2) r) := by
  induction entries generalizing r with
  | nil => exact .refl r
  | cons e rest ih =>
    have first : r.Grows (r.addDegraded e.1 e.2) := r.infos.keys_prefix_insert e.1 e.2
    exact first.trans (ih (r.addDegraded e.1 e.2))

abbrev Ascend (reports : List Report) : Prop :=
  reports.Pairwise Grows

theorem Ascend.cons {reports : List Report} (grows : r.Grows s) (ascend : Ascend (s :: reports)) :
    Ascend (r :: s :: reports) := by
  refine List.pairwise_cons.2 ⟨fun later member => ?_, ascend⟩
  obtain rfl | after := List.mem_cons.1 member
  · exact grows
  · exact grows.trans ((List.pairwise_cons.1 ascend).1 later after)

theorem Ascend.append {earlier later : List Report} (first : Ascend (earlier ++ [s]))
    (second : Ascend (s :: later)) : Ascend (earlier ++ later) := by
  obtain ⟨before, -, below⟩ := List.pairwise_append.1 first
  obtain ⟨above, after⟩ := List.pairwise_cons.1 second
  exact List.pairwise_append.2 ⟨before, after, fun r former t latter =>
    (below r former s (List.mem_singleton_self s)).trans (above t latter)⟩

end Report

theorem Move.grows {σ : Type} {tool : Tool} {monitor : Monitor σ} {origin : Origin} {c d : Call σ}
    (move : Move tool monitor origin c d) : c.report.Grows d.report := by
  cases move with
  | hit _ => exact c.report.infos.keys_prefix_insert _ _
  | learned _ => exact c.report.infos.keys_prefix_update _
  | degraded _ => exact c.report.infos.keys_prefix_insert _ _
  | degradedAll _ => exact Report.grows_foldl_addDegraded _ c.report
  | refused | computed | remembered | missed | missedAll | worked | asked => exact List.prefix_rfl

theorem Moves.grows {σ : Type} {tool : Tool} {monitor : Monitor σ} {origin : Origin} {c d : Call σ}
    (moves : Moves tool monitor origin c d) : c.report.Grows d.report := by
  induction moves with
  | refl => exact List.prefix_rfl
  | tail _ move ih => exact ih.trans move.grows

/-! One target after the other -/

namespace Call

variable {σ : Type} {tool : Tool} {monitor : Monitor σ} {origin : Origin} {c d e : Call σ}
  {reports : List Report}

/-- One target is answered, from the cache or by a run of the tool. -/
inductive Answered (tool : Tool) (origin : Origin) : Call σ → Call σ → Prop where
  | hit {c : Call σ} {target : String} {info : PackageInfo}
      (cached : c.world.cache.current.get? target = some info) :
      Answered tool origin c (c.hit origin target info)
  | literal {c : Call σ} {target : String} {records : Records}
      (absent : c.world.cache.current.get? target = none)
      (answered : (tool c.world.invocations target).outcome = .ok records) :
      Answered tool origin c (c.answerLiteral tool origin target records.values)
  | wildcard {c : Call σ} {target : String} {label : Label} {records : Records}
      (read : Label.parse target = .ok label)
      (unknown : c.world.cache.wildcards.get? target = none)
      (answered : (tool c.world.invocations target).outcome = .ok records) :
      Answered tool origin c (c.answerWildcard tool origin target label.package records.values)

theorem Answered.moves (monitor : Monitor σ) (answered : Answered tool origin c d) :
    Moves tool monitor origin c d := by
  cases answered with
  | hit cached => exact .single (.hit cached)
  | literal _ said => exact Resolve.answerLiteral_moves tool monitor origin said
  | wildcard read _ said => exact Resolve.answerWildcard_moves tool monitor origin read said

/-- Targets are answered one after the other, and after each of them the number of records that the
report has then is told. The reports are those of these moments. -/
inductive Rounds (tool : Tool) (monitor : Monitor σ) (origin : Origin) :
    Call σ → List Report → Call σ → Prop where
  | done (c : Call σ) : Rounds tool monitor origin c [] c
  | round {c d e : Call σ} {w : World σ} {reports : List Report}
      (answered : Answered tool origin c d)
      (told : monitor.worked d.report.infos.size d.world = .ok () w)
      (rest : Rounds tool monitor origin { d with world := w } reports e) :
      Rounds tool monitor origin c (d.report :: reports) e

theorem Rounds.append {more : List Report} (first : Rounds tool monitor origin c reports d)
    (second : Rounds tool monitor origin d more e) :
    Rounds tool monitor origin c (reports ++ more) e := by
  induction first with
  | done c => exact second
  | round answered told _ ih => exact .round answered told (ih second)

theorem Rounds.ascend (rounds : Rounds tool monitor origin c reports d) :
    Report.Ascend (c.report :: reports ++ [d.report]) := by
  induction rounds with
  | done c => exact .cons (.refl c.report) (List.pairwise_singleton _ _)
  | round answered _ _ ih => exact .cons (answered.moves monitor).grows ih

theorem Rounds.keep_world {J : World σ → Prop} (effect : ∀ v w, Effect tool v w → J v → J w)
    (watched : monitor.Keeps J) (rounds : Rounds tool monitor origin c reports d)
    (start : J c.world) : J d.world := by
  induction rounds with
  | done c => exact start
  | round answered told _ ih =>
    have kept := (answered.moves monitor).keep_world effect watched start
    exact ih ((watched.worked _).ok told kept)

theorem Rounds.getLast? (rounds : Rounds tool monitor origin c reports d) :
    (c.report :: reports).getLast? = some d.report := by
  induction rounds with
  | done c => rfl
  | round _ _ _ ih => rw [List.getLast?_cons_cons, ih]

/-- The requested targets are handled one after the other. The one who watches is asked once for each
of them, and then hears of it at least once, for the last time when it has been handled. -/
inductive Handles (tool : Tool) (monitor : Monitor σ) (origin : Origin) :
    Call σ → List String → List (List Report) → Call σ → Prop where
  | done (c : Call σ) : Handles tool monitor origin c [] [] c
  | target {c d e : Call σ} {w : World σ} {target : String} {reports : List Report}
      {targets : List String} {handled : List (List Report)}
      (asked : monitor.isCanceled c.world = .ok false w)
      (rounds : Rounds tool monitor origin { c with world := w } reports d)
      (heard : reports.getLast? = some d.report)
      (returned : Resolve.request tool monitor origin target c = .ok () d)
      (rest : Handles tool monitor origin d targets handled e) :
      Handles tool monitor origin c (target :: targets) (reports :: handled) e

theorem Handles.ascend {targets : List String} {handled : List (List Report)}
    (handles : Handles tool monitor origin c targets handled d) :
    Report.Ascend (c.report :: handled.flatten ++ [d.report]) := by
  induction handles with
  | done c => exact .cons (.refl c.report) (List.pairwise_singleton _ _)
  | target _ rounds _ _ _ ih =>
    have together := rounds.ascend.append ih
    simpa using together

theorem Handles.each {targets : List String} {handled : List (List Report)}
    (handles : Handles tool monitor origin c targets handled d) :
    handled.length = targets.length ∧ ∀ reports ∈ handled, reports ≠ [] := by
  induction handles with
  | done c => exact ⟨rfl, nofun⟩
  | target _ _ heard _ _ ih =>
    refine ⟨congrArg (· + 1) ih.1, List.forall_mem_cons.2 ⟨?_, ih.2⟩⟩
    rintro rfl
    cases heard

end Call

namespace Resolve

variable {σ : Type} {tool : Tool} {monitor : Monitor σ} {origin : Origin} {c d : Call σ}
  {target : String}

open Call (Rounds Handles)

theorem rounds_of_answered {b : Call σ} (answered : Call.Answered tool origin c b)
    (returned : reportWork monitor b = .ok () d) : Rounds tool monitor origin c [b.report] d := by
  rw [reportWork_apply] at returned
  cases told : monitor.worked b.report.infos.size b.world with
  | error f w =>
    rw [told] at returned
    cases returned
  | ok _ w =>
    rw [told] at returned
    cases returned
    exact .round answered told (.done _)

theorem literal_rounds (returned : literal tool monitor origin target c = .ok () d) :
    ∃ report, Rounds tool monitor origin c [report] d := by
  cases cached : c.world.cache.current.get? target with
  | some info =>
    rw [literal_hit tool monitor origin cached] at returned
    exact ⟨_, rounds_of_answered (.hit cached) returned⟩
  | none =>
    cases said : (tool c.world.invocations target).outcome with
    | error f =>
      rw [literal_refused tool monitor origin cached said] at returned
      cases returned
    | ok records =>
      rw [literal_answered tool monitor origin cached said] at returned
      exact ⟨_, rounds_of_answered (.literal cached said) returned⟩

theorem member_rounds {depth : Nat} {visiting : List String}
    (nested : ∀ {sub : String} {label : Label}, Label.parse sub = .ok label →
      ∀ {c d : Call σ}, c.world.cache.Populated →
        wildcard tool monitor origin depth visiting sub c = .ok () d →
          ∃ reports, reports ≠ [] ∧ Rounds tool monitor origin c reports d)
    (sub : String) (c d : Call σ) (populated : c.world.cache.Populated)
    (returned : member tool monitor origin depth visiting sub c = .ok () d) :
    ∃ reports, reports ≠ [] ∧ Rounds tool monitor origin c reports d := by
  unfold member at returned
  cases read : Label.parse sub with
  | error fault =>
    rw [read] at returned
    cases returned
  | ok label =>
    rw [read] at returned
    simp only at returned
    split at returned
    next => exact nested read populated returned
    next =>
      obtain ⟨report, rounds⟩ := literal_rounds returned
      exact ⟨[report], List.cons_ne_nil _ _, rounds⟩

section Populated

variable (watched : monitor.Keeps fun w => w.cache.Populated)
include watched

/-- The members of an expansion are told of one after the other; where there are some, there is
something told. -/
theorem forM_rounds {f : String → Step σ PUnit} {members : List String}
    (each : ∀ sub c d, c.world.cache.Populated → f sub c = .ok () d →
      ∃ reports, reports ≠ [] ∧ Rounds tool monitor origin c reports d)
    (populated : c.world.cache.Populated) (returned : members.forM f c = .ok () d) :
    ∃ reports, (members ≠ [] → reports ≠ []) ∧ Rounds tool monitor origin c reports d := by
  induction members generalizing c with
  | nil =>
    cases returned
    exact ⟨[], fun some => absurd rfl some, .done d⟩
  | cons sub rest ih =>
    obtain ⟨b, first, later⟩ := Step.forM_cons_ok.1 returned
    obtain ⟨reports, some, rounds⟩ := each sub c b populated first
    have still := rounds.keep_world (J := fun w => w.cache.Populated)
      (fun _ _ effect => effect.populated) watched populated
    obtain ⟨more, -, others⟩ := ih still later
    exact ⟨reports ++ more, fun _ => List.append_ne_nil_of_left_ne_nil some more,
      rounds.append others⟩

theorem wildcard_rounds {depth : Nat} {visiting : List String} {label : Label}
    (read : Label.parse target = .ok label) (populated : c.world.cache.Populated)
    (returned : wildcard tool monitor origin depth visiting target c = .ok () d) :
    ∃ reports, reports ≠ [] ∧ Rounds tool monitor origin c reports d := by
  induction depth generalizing visiting target label c d with
  | zero => cases returned
  | succ depth ih =>
    cases fresh : visiting.contains target with
    | true =>
      rw [wildcard_cycle tool monitor origin depth fresh] at returned
      cases returned
    | false =>
      cases known : c.world.cache.wildcards.get? target with
      | some expansion =>
        rw [wildcard_remembered tool monitor origin depth fresh known] at returned
        obtain ⟨reports, some, rounds⟩ :=
          forM_rounds watched (member_rounds fun read => ih read) populated returned
        exact ⟨reports, some (populated target expansion known), rounds⟩
      | none =>
        cases said : (tool c.world.invocations target).outcome with
        | error f =>
          rw [wildcard_refused tool monitor origin depth fresh known said] at returned
          cases returned
        | ok records =>
          rw [wildcard_answered tool monitor origin depth fresh read known said] at returned
          exact ⟨_, List.cons_ne_nil _ _, rounds_of_answered (.wildcard read known said) returned⟩

theorem request_rounds (populated : c.world.cache.Populated)
    (returned : request tool monitor origin target c = .ok () d) :
    ∃ w reports, monitor.isCanceled c.world = .ok false w ∧
      Rounds tool monitor origin { c with world := w } reports d ∧
      reports.getLast? = some d.report := by
  have handled := returned
  rw [request_eq] at handled
  cases asked : monitor.isCanceled c.world with
  | error f w =>
    rw [asked] at handled
    cases handled
  | ok canceled w =>
    rw [asked] at handled
    cases canceled with
    | true => cases handled
    | false =>
      have still : w.cache.Populated := watched.isCanceled.ok asked populated
      have rounds : ∃ reports, reports ≠ [] ∧
          Rounds tool monitor origin { c with world := w } reports d := by
        cases read : Label.parse target with
        | error fault =>
          rw [read] at handled
          cases handled
        | ok label =>
          rw [read] at handled
          simp only at handled
          split at handled
          next => exact wildcard_rounds watched (Label.parse_canonical read) still handled
          next =>
            obtain ⟨report, rounds⟩ := literal_rounds handled
            exact ⟨[report], List.cons_ne_nil _ _, rounds⟩
      obtain ⟨reports, some, rounds⟩ := rounds
      refine ⟨w, reports, rfl, rounds, ?_⟩
      obtain ⟨first, more, rfl⟩ := List.exists_cons_of_ne_nil some
      have last := rounds.getLast?
      rwa [List.getLast?_cons_cons] at last

theorem requests_handle {targets : List String} (populated : c.world.cache.Populated)
    (returned : requests tool monitor origin targets c = .ok () d) :
    ∃ handled, Handles tool monitor origin c targets handled d := by
  induction targets generalizing c with
  | nil =>
    cases returned
    exact ⟨[], .done d⟩
  | cons target rest ih =>
    obtain ⟨b, first, later⟩ := Step.forM_cons_ok.1 returned
    obtain ⟨w, reports, asked, rounds, heard⟩ := request_rounds watched populated first
    have still := rounds.keep_world (J := fun w => w.cache.Populated)
      (fun _ _ effect => effect.populated) watched (watched.isCanceled.ok asked populated)
    obtain ⟨handled, others⟩ := ih still later
    exact ⟨reports :: handled, .target asked rounds heard first others⟩

end Populated

end Resolve

/-! What is heard -/

/-- What one who watches is told or asked. -/
inductive Signal where
  | task (text : String)
  | worked (units : Nat)
  | asked
  deriving DecidableEq

section Recording

variable {τ : Type}

/-- The session with one more signal. The signals, the last one at the end, are the first part of what
one who watches keeps for itself. -/
def World.hear (signal : Signal) (w : World (List Signal × τ)) : World (List Signal × τ) :=
  { w with client := (w.client.1 ++ [signal], w.client.2) }

/-- One who writes down every signal, and then does what another one does. -/
def Monitor.recording (monitor : Monitor (List Signal × τ)) : Monitor (List Signal × τ) where
  subTask text := do
    modify (World.hear (.task text))
    monitor.subTask text
  worked units := do
    modify (World.hear (.worked units))
    monitor.worked units
  isCanceled := do
    modify (World.hear .asked)
    monitor.isCanceled

/-- One who works with the session through the operations of the cache, with anybody watching these in
turn, and beside that touches only what it keeps for itself, which the signals are no part of. -/
def Monitor.Operates (tool : Tool) (monitor : Monitor (List Signal × τ)) : Prop :=
  ∀ J : World (List Signal × τ) → Prop, Cache.Keeps tool J →
    (∀ w own, J w → J { w with client := (w.client.1, own) }) → monitor.Keeps J

variable {tool : Tool} {monitor : Monitor (List Signal × τ)} {origin : Origin}

theorem Monitor.Operates.spares (operates : monitor.Operates tool) (signals : List Signal) :
    monitor.Keeps fun w => w.client.1 = signals := by
  refine operates _ (.of_effect fun v w effect heard => ?_) fun w own heard => heard
  rw [effect.client_eq]
  exact heard

theorem Monitor.Operates.populated (operates : monitor.Operates tool) :
    monitor.recording.Keeps fun w => w.cache.Populated := by
  have kept : monitor.Keeps fun w => w.cache.Populated :=
    operates _ (.of_effect fun _ _ effect => effect.populated) fun _ _ populated => populated
  exact {
    subTask := fun text w start => kept.subTask text (w.hear (.task text)) start
    worked := fun units w start => kept.worked units (w.hear (.worked units)) start
    isCanceled := fun w start => kept.isCanceled (w.hear .asked) start }

theorem Call.Answered.client_eq {σ : Type} {c d : Call σ} (answered : Answered tool origin c d) :
    d.world.client = c.world.client :=
  (answered.moves .silent).keep_world (J := fun w => w.client = c.world.client)
    (fun _ _ effect same => effect.client_eq.trans same) (Monitor.silent_keeps _) rfl

def Signal.ofReport (r : Report) : Signal :=
  .worked r.infos.size

variable (operates : monitor.Operates tool)
include operates

theorem Call.Rounds.heard {c d : Call (List Signal × τ)} {reports : List Report}
    (rounds : Rounds tool monitor.recording origin c reports d) :
    d.world.client.1 = c.world.client.1 ++ reports.map .ofReport := by
  induction rounds with
  | done c => exact (List.append_nil _).symm
  | @round c b e w reports answered told _ ih =>
    have spoken : w.client.1 = b.world.client.1 ++ [.ofReport b.report] :=
      ((operates.spares _).worked _).ok told rfl
    rw [ih, spoken, answered.client_eq, List.append_assoc]
    rfl

/-- The signals of requested targets: a question, and then what is told. -/
def Signal.ofTarget (reports : List Report) : List Signal :=
  .asked :: reports.map .ofReport

theorem Call.Handles.heard {c d : Call (List Signal × τ)} {targets : List String}
    {handled : List (List Report)}
    (handles : Handles tool monitor.recording origin c targets handled d) :
    d.world.client.1 = c.world.client.1 ++ handled.flatMap Signal.ofTarget := by
  induction handles with
  | done c => exact (List.append_nil _).symm
  | @target c b e w target reports targets handled asked rounds _ _ _ ih =>
    have questioned : w.client.1 = c.world.client.1 ++ [.asked] :=
      (operates.spares _).isCanceled.ok asked rfl
    rw [ih, rounds.heard operates, questioned, List.flatMap_cons, Signal.ofTarget]
    simp

/-- What is heard of a resolution that returns: its name, then for every requested target one question
whether to cancel and at least one number, and a number at the end. A number is always that of the
records which the report has at the moment, the last one of a target is told when the target has been
handled, and the numbers never go down. -/
theorem Cache.resolveWithReport_heard {w w' : World (List Signal × τ)} {targets : List String}
    {report : Report} (reached : w.snapshot.Reachable tool)
    (returned : resolveWithReport tool monitor.recording origin targets w = .ok report w') :
    ∃ v last handled,
      monitor.recording.subTask resolveTask w = .ok () v ∧
      Call.Handles tool monitor.recording origin ⟨.empty, v⟩ targets handled last ∧
      last.report = report ∧
      handled.length = targets.length ∧ (∀ reports ∈ handled, reports ≠ []) ∧
      w'.client.1 = w.client.1 ++ .task resolveTask ::
        (handled.flatMap Signal.ofTarget ++ [.worked report.infos.size]) ∧
      ((handled.flatten ++ [report]).map (·.infos.size)).Pairwise (· ≤ ·) := by
  obtain ⟨v, last, u, started, run, ended, rfl, rfl⟩ := resolveWithReport_ok returned
  have watched := operates.populated
  have populated := (watched.subTask resolveTask).ok started reached.populated
  obtain ⟨handled, handles⟩ := Resolve.requests_handle watched populated run
  refine ⟨v, last, handled, started, handles, rfl, handles.each.1, handles.each.2, ?_, ?_⟩
  · have named : v.client.1 = w.client.1 ++ [.task resolveTask] :=
      ((operates.spares _).subTask _).ok started rfl
    have spoken : u.client.1 = last.world.client.1 ++ [.worked last.report.infos.size] :=
      ((operates.spares _).worked _).ok ended rfl
    rw [World.tell_client, spoken, handles.heard operates, named]
    simp
  · have ascend := (List.pairwise_cons.1 handles.ascend).2
    exact List.pairwise_map.2 (ascend.imp Report.Grows.size_le)

omit operates

/-- The session of somebody else. -/
def World.handTo {σ : Type} (w : World σ) (client : τ) : World τ :=
  ⟨w.cache, w.journal, client⟩

theorem World.snapshot_handTo {σ : Type} (w : World σ) (client : τ) :
    (w.handTo client).snapshot = w.snapshot :=
  rfl

/-- Somebody who forgets everything whenever there is progress, and then resolves a target of its own. -/
def Monitor.busy (tool : Tool) (target : String) : Monitor (List Signal × τ) where
  subTask _ := pure ()
  worked _ := do
    Cache.flushAll
    let _ ← attempt (Cache.resolveWithReport tool .silent default [target])
  isCanceled := pure false

theorem Monitor.busy_operates (target : String) :
    (busy tool target : Monitor (List Signal × τ)).Operates tool := by
  intro J kept _
  exact {
    subTask := fun _ _ start => start
    worked := fun _ => .bind kept.flushed fun _ =>
      .bind (attempt_keep (kept.resolved .silent default [target] (silent_keeps J)))
        fun _ _ start => start
    isCanceled := fun _ start => start }

/-- A wildcard of two targets is forgotten after the first of them, and another target is there when
its turn comes. -/
theorem Cache.resolveWithReport_heard_sample :
    let tool := Tool.listing [("//a:*", ["//a:x", "//a:y"]), ("//a:y", ["//a:y"]), ("//b:c", ["//b:c"])]
    let w := ((Usage.resolving ["//a:*"]).ending tool).handTo (([], ()) : List Signal × Unit)
    ∃ report w', resolveWithReport tool (Monitor.busy tool "//b:c").recording default
        ["//a:*", "//b:c"] w = .ok report w' ∧
      w'.client.1 = [.task resolveTask, .asked, .worked 1, .worked 2, .asked, .worked 3, .worked 3] ∧
      ∃ handled : List (List Report), handled.length = 2 ∧
        w'.client.1 = .task resolveTask ::
          (handled.flatMap Signal.ofTarget ++ [.worked report.infos.size]) ∧
        ((handled.flatten ++ [report]).map (·.infos.size)).Pairwise (· ≤ ·) := by
  intro tool w
  obtain ⟨report, w', returned⟩ := eq_ok_of_answer? (r := resolveWithReport tool
    (Monitor.busy tool "//b:c").recording default ["//a:*", "//b:c"] w) (by decide +kernel)
  have signals : (stateAfter (resolveWithReport tool (Monitor.busy tool "//b:c").recording default
      ["//a:*", "//b:c"] w)).client.1 =
        [.task resolveTask, .asked, .worked 1, .worked 2, .asked, .worked 3, .worked 3] := by
    decide +kernel
  rw [returned] at signals
  have reached : w.snapshot.Reachable tool := by
    rw [World.snapshot_handTo]
    exact Usage.ending_reachable tool (.resolving ["//a:*"])
  obtain ⟨_, _, handled, _, _, _, number, _, heard, ascend⟩ :=
    resolveWithReport_heard (Monitor.busy_operates "//b:c") reached returned
  exact ⟨report, w', returned, signals, handled, number, heard, ascend⟩

end Recording

end WorkspaceImport
