import WorkspaceImport.Cache.Resolve
import WorkspaceImport.Proofs.OrderedMap
/-!
What the steps of a resolution do, one equation for each way they can go. The pieces from which a
resolution is put together have names here, so that the laws about resolutions need not look into
the programs again.
-/
namespace WorkspaceImport

/-- What an operation leaves behind, whether it succeeded or not. -/
def stateAfter {ε σ α : Type} : EStateM.Result ε σ α → σ
  | .ok _ s => s
  | .error _ s => s

/-- What an operation answers, if it succeeded. -/
def answer? {ε σ α : Type} : EStateM.Result ε σ α → Option α
  | .ok x _ => some x
  | .error _ _ => none

/-- How an operation failed, if it did. -/
def failure? {ε σ α : Type} : EStateM.Result ε σ α → Option ε
  | .ok _ _ => none
  | .error f _ => some f

theorem eq_ok_of_answer? {ε σ α : Type} {r : EStateM.Result ε σ α}
    (answered : (answer? r).isSome = true) : ∃ x s, r = .ok x s := by
  cases r with
  | ok x s => exact ⟨x, s, rfl⟩
  | error f s => cases answered

theorem eq_error_of_answer? {ε σ α : Type} {r : EStateM.Result ε σ α}
    (failed : (answer? r).isNone = true) : ∃ f s, r = .error f s := by
  cases r with
  | ok x s => cases failed
  | error f s => exact ⟨f, s, rfl⟩

namespace Records

/-- Records under the canonical spelling of their labels; of two with one spelling the later counts. -/
def canonical (infos : List PackageInfo) : Records :=
  OrderedMap.ofList (infos.map fun info => (canonicalLabel info.label, info))

theorem eq_nil_of_isEmpty {infos : List PackageInfo} (none : (canonical infos).isEmpty = true) :
    infos = [] := by
  cases infos with
  | nil => rfl
  | cons info rest =>
    have found : (canonical (info :: rest)).contains (canonicalLabel info.label) = true := by
      rw [canonical, OrderedMap.contains, OrderedMap.get?_ofList]
      simp [List.getLast?_cons]
    rw [OrderedMap.isEmpty_iff.1 none] at found
    cases found

end Records

namespace World

variable {σ : Type} (tool : Tool) (origin : Origin)

def ask (w : World σ) (target : String) : World σ :=
  let said := tool w.invocations target
  let missed := w.log (.missed target origin)
  (if said.lacksCommand then missed else missed.log (.invoked target)).tell said.notes

def learn (w : World σ) (target : String) (infos : List PackageInfo) : World σ :=
  infos.foldl (produce origin) (w.ask tool origin target)

def hit (w : World σ) (target : String) : World σ :=
  { w.log (.hit target origin) with cache := w.cache.countHit }

def remember (w : World σ) (wildcard : String) (targets : List String) : World σ :=
  { w with cache := w.cache.remember wildcard targets }

theorem tell_cache (w : World σ) (notes : List Note) : (w.tell notes).cache = w.cache := by
  induction notes generalizing w with
  | nil => rfl
  | cons note rest ih => exact ih (w.log (.told note))

theorem tell_invocations (w : World σ) (notes : List Note) :
    (w.tell notes).invocations = w.invocations := by
  induction notes generalizing w with
  | nil => rfl
  | cons note rest ih => exact ih (w.log (.told note))

theorem ask_cache (w : World σ) (target : String) : (w.ask tool origin target).cache = w.cache := by
  rw [ask, tell_cache]
  split <;> rfl

theorem ask_invocations (w : World σ) (target : String) : (w.ask tool origin target).invocations =
    if (tool w.invocations target).lacksCommand then w.invocations
    else target :: w.invocations := by
  rw [ask, tell_invocations]
  split <;> rfl

theorem foldl_produce_cache (infos : List PackageInfo) (w : World σ) :
    (infos.foldl (produce origin) w).cache = { w.cache with
      current := w.cache.current.update (Records.canonical infos)
      lastGood := w.cache.lastGood.update (Records.canonical infos) } := by
  rw [Records.canonical, ← OrderedMap.foldl_insert_eq_update,
    ← OrderedMap.foldl_insert_eq_update]
  induction infos generalizing w with
  | nil => rfl
  | cons info rest ih => exact ih (w.produce origin info)

theorem foldl_produce_invocations (infos : List PackageInfo) (w : World σ) :
    (infos.foldl (produce origin) w).invocations = w.invocations := by
  induction infos generalizing w with
  | nil => rfl
  | cons info rest ih => exact ih (w.produce origin info)

theorem learn_cache (w : World σ) (target : String) (infos : List PackageInfo) :
    (w.learn tool origin target infos).cache = { w.cache with
      current := w.cache.current.update (Records.canonical infos)
      lastGood := w.cache.lastGood.update (Records.canonical infos) } := by
  rw [learn, foldl_produce_cache, ask_cache]

theorem learn_invocations (w : World σ) (target : String) (infos : List PackageInfo) :
    (w.learn tool origin target infos).invocations = (w.ask tool origin target).invocations :=
  foldl_produce_invocations origin infos _

theorem tell_client (w : World σ) (notes : List Note) : (w.tell notes).client = w.client := by
  induction notes generalizing w with
  | nil => rfl
  | cons note rest ih => exact ih (w.log (.told note))

theorem ask_client (w : World σ) (target : String) :
    (w.ask tool origin target).client = w.client := by
  rw [ask, tell_client]
  split <;> rfl

theorem foldl_produce_client (infos : List PackageInfo) (w : World σ) :
    (infos.foldl (produce origin) w).client = w.client := by
  induction infos generalizing w with
  | nil => rfl
  | cons info rest ih => exact ih (w.produce origin info)

end World

namespace Call

variable {σ : Type} (tool : Tool) (origin : Origin)

def hit (c : Call σ) (target : String) (info : PackageInfo) : Call σ :=
  ⟨c.report.addHit target info, c.world.hit origin target⟩

def ask (c : Call σ) (target : String) : Call σ :=
  { c with world := c.world.ask tool origin target }

def learn (c : Call σ) (target : String) (infos : List PackageInfo) : Call σ :=
  ⟨c.report.merge (Records.canonical infos), c.world.learn tool origin target infos⟩

def addComputed (c : Call σ) (targets : List String) : Call σ :=
  { c with report := c.report.addComputed targets }

def degrade (c : Call σ) (target : String) (info : PackageInfo) : Call σ :=
  ⟨c.report.addDegraded target info, c.world.log (.stale target origin)⟩

def degradeAll (c : Call σ) (target : String) (stale : Records) : Call σ :=
  ⟨stale.entries.foldl (fun r e => r.addDegraded e.1 e.2) c.report,
    c.world.tell [.stalePackage target stale.size origin]⟩

def miss (c : Call σ) (target : String) : Call σ :=
  ⟨c.report.addMissing target, c.world.log (.failed target origin)⟩

def remember (c : Call σ) (wildcard : String) (targets : List String) : Call σ :=
  { c with world := c.world.remember wildcard targets }

def fallBack (c : Call σ) (target : String) : Call σ :=
  match c.world.cache.lastGood.get? target with
  | some info => c.degrade origin target info
  | none => c.miss origin target

def fallBackPackage (c : Call σ) (target package : String) : Call σ :=
  let stale := c.world.cache.staleOf package
  if stale.isEmpty then c.miss origin target else c.degradeAll origin target stale

def answerLiteral (c : Call σ) (target : String) (infos : List PackageInfo) : Call σ :=
  let learned := c.learn tool origin target infos
  if (Records.canonical infos).contains target then learned.addComputed [target]
  else if learned.report.infos.contains target then learned
  else learned.fallBack origin target

/-- The tool answered for a wildcard. -/
def answerWildcard (c : Call σ) (target package : String) (infos : List PackageInfo) : Call σ :=
  let found := Records.canonical infos
  let learned := c.learn tool origin target infos
  if found.isEmpty then learned.fallBackPackage origin target package
  else (learned.remember target found.keys).addComputed found.keys

end Call

namespace Step

variable {σ α β : Type}

@[simp] theorem bind_apply (s : Step σ α) (next : α → Step σ β) (c : Call σ) :
    (s >>= next) c = match s c with
      | .ok x d => next x d
      | .error f d => .error f d := by
  cases run : s c <;> simp only [bind, EStateM.bind, run]

@[simp] theorem pure_apply (x : α) (c : Call σ) : (pure x : Step σ α) c = .ok x c :=
  rfl

@[simp] theorem throw_apply (f : Failure) (c : Call σ) : (throw f : Step σ α) c = .error f c :=
  rfl

@[simp] theorem get_apply (c : Call σ) : (get : Step σ (Call σ)) c = .ok c c :=
  rfl

@[simp] theorem modify_apply (change : Call σ → Call σ) (c : Call σ) :
    (modify change : Step σ PUnit) c = .ok () (change c) :=
  rfl

@[simp] theorem log_apply (e : Event) (c : Call σ) :
    log e c = .ok () { c with world := c.world.log e } :=
  rfl

@[simp] theorem tell_apply (notes : List Note) (c : Call σ) :
    tell notes c = .ok () { c with world := c.world.tell notes } :=
  rfl

@[simp] theorem cache_apply (c : Call σ) : cache c = .ok c.world.cache c :=
  rfl

@[simp] theorem changeReport_apply (change : Report → Report) (c : Call σ) :
    changeReport change c = .ok () { c with report := change c.report } :=
  rfl

theorem forM_cons_apply (f : α → Step σ PUnit) (x : α) (rest : List α) (c : Call σ) :
    (x :: rest).forM f c = match f x c with
      | .ok _ d => rest.forM f d
      | .error e d => .error e d := by
  change (f x >>= fun _ => rest.forM f) c = _
  rw [bind_apply]
  cases f x c <;> rfl

theorem forM_append_apply (f : α → Step σ PUnit) (xs ys : List α) (c : Call σ) :
    (xs ++ ys).forM f c = match xs.forM f c with
      | .ok _ d => ys.forM f d
      | .error e d => .error e d := by
  induction xs generalizing c with
  | nil => rfl
  | cons x rest ih =>
    rw [List.cons_append, forM_cons_apply, forM_cons_apply]
    cases f x c with
    | ok _ d => exact ih d
    | error e d => rfl

theorem forM_cons_ok {f : α → Step σ PUnit} {x : α} {rest : List α} {c d : Call σ} :
    (x :: rest).forM f c = .ok () d ↔ ∃ b, f x c = .ok () b ∧ rest.forM f b = .ok () d := by
  rw [forM_cons_apply]
  cases run : f x c with
  | ok _ b =>
    constructor
    · intro returned
      exact ⟨b, rfl, returned⟩
    · rintro ⟨b', same, returned⟩
      cases same
      exact returned
  | error e b =>
    constructor
    · intro returned
      cases returned
    · rintro ⟨b', same, _⟩
      cases same

theorem forM_append_ok {f : α → Step σ PUnit} {xs ys : List α} {c d : Call σ} :
    (xs ++ ys).forM f c = .ok () d ↔ ∃ b, xs.forM f c = .ok () b ∧ ys.forM f b = .ok () d := by
  rw [forM_append_apply]
  cases run : xs.forM f c with
  | ok _ b => simp
  | error e b => simp

theorem forM_error {f : α → Step σ PUnit} {xs : List α} {c d : Call σ} {e : Failure}
    (failed : xs.forM f c = .error e d) : ∃ before x after b, xs = before ++ x :: after ∧
      before.forM f c = .ok () b ∧ f x b = .error e d := by
  induction xs generalizing c with
  | nil => cases failed
  | cons first rest ih =>
    rw [forM_cons_apply] at failed
    cases run : f first c with
    | error e' d' =>
      rw [run] at failed
      cases failed
      exact ⟨[], first, rest, c, rfl, rfl, run⟩
    | ok _ b =>
      rw [run] at failed
      obtain ⟨before, x, after, last, split, went, stopped⟩ := ih failed
      refine ⟨first :: before, x, after, last, by rw [split, List.cons_append], ?_, stopped⟩
      exact forM_cons_ok.2 ⟨b, run, went⟩

end Step

namespace Resolve

variable {σ : Type} (tool : Tool) (monitor : Monitor σ) (origin : Origin)

theorem reportWork_apply (c : Call σ) : reportWork monitor c =
    match monitor.worked c.report.infos.size c.world with
    | .ok _ w => .ok () { c with world := w }
    | .error f w => .error f { c with world := w } := by
  simp only [reportWork, Step.bind_apply, Step.get_apply, Step.act]
  cases monitor.worked c.report.infos.size c.world <;> rfl

theorem lacksCommand_answered {said : Reported Records} {records : Records}
    (answered : said.outcome = .ok records) : said.lacksCommand = false := by
  rw [Reported.lacksCommand, answered]

theorem invocations_learn {c : Call σ} {target : String} {records : Records}
    (answered : (tool c.world.invocations target).outcome = .ok records) :
    (c.learn tool origin target records.values).world.invocations = target :: c.world.invocations := by
  rw [Call.learn, World.learn_invocations, World.ask_invocations, lacksCommand_answered answered,
    if_neg Bool.false_ne_true]

theorem compute_refused {c : Call σ} {target : String} {f : Failure}
    (refused : (tool c.world.invocations target).outcome = .error f) :
    compute tool origin target { c with world := c.world.log (.missed target origin) } =
      .error f (c.ask tool origin target) := by
  have earlier : (c.world.log (.missed target origin)).invocations = c.world.invocations := rfl
  simp only [compute, Step.bind_apply, Step.get_apply, earlier, refused, Call.ask, World.ask]
  by_cases unsaid : (tool c.world.invocations target).lacksCommand = true
  · simp [unsaid]
  · simp [unsaid]

theorem compute_ok {c : Call σ} {target : String} {records : Records}
    (answered : (tool c.world.invocations target).outcome = .ok records) :
    compute tool origin target c = .ok (Records.canonical records.values) { c with
      world := records.values.foldl (World.produce origin)
        ((c.world.log (.invoked target)).tell (tool c.world.invocations target).notes) } := by
  have said := lacksCommand_answered answered
  simp only [compute, Step.bind_apply, Step.get_apply, said, Bool.false_eq_true, if_false,
    Step.log_apply, Step.tell_apply, answered, Step.modify_apply, Step.pure_apply,
    Records.canonical]

theorem compute_answered {c : Call σ} {target : String} {records : Records}
    (answered : (tool c.world.invocations target).outcome = .ok records) :
    compute tool origin target { c with world := c.world.log (.missed target origin) } =
      .ok (Records.canonical records.values)
        { c with world := c.world.learn tool origin target records.values } := by
  have earlier : (c.world.log (.missed target origin)).invocations = c.world.invocations := rfl
  rw [compute_ok tool origin (by rw [earlier]; exact answered)]
  simp only [World.learn, World.ask, lacksCommand_answered answered, Bool.false_eq_true, if_false,
    earlier]

theorem fallback_eq (c : Call σ) (target : String) :
    fallback origin target c = .ok () (c.fallBack origin target) := by
  simp only [fallback, Step.bind_apply, Step.cache_apply, Call.fallBack]
  cases c.world.cache.lastGood.get? target <;> rfl

theorem fallbackPackage_eq (c : Call σ) {target : String} {label : Label}
    (read : Label.parse target = .ok label) :
    fallbackPackage origin target c = .ok () (c.fallBackPackage origin target label.package) := by
  simp only [fallbackPackage, read, Step.bind_apply, Step.cache_apply, Call.fallBackPackage]
  split <;> rfl

theorem merge_empty (r : Report) : r.merge .empty = r := by
  simp [Report.merge, OrderedMap.contains]

theorem literal_hit {c : Call σ} {target : String} {info : PackageInfo}
    (cached : c.world.cache.current.get? target = some info) :
    literal tool monitor origin target c = reportWork monitor (c.hit origin target info) := by
  simp only [literal, Step.bind_apply, Step.cache_apply, cached]
  rfl

theorem literal_refused {c : Call σ} {target : String} {f : Failure}
    (absent : c.world.cache.current.get? target = none)
    (refused : (tool c.world.invocations target).outcome = .error f) :
    literal tool monitor origin target c = .error f (c.ask tool origin target) := by
  simp only [literal, Step.bind_apply, Step.cache_apply, absent, Step.log_apply,
    compute_refused tool origin refused]

theorem literal_answered {c : Call σ} {target : String} {records : Records}
    (absent : c.world.cache.current.get? target = none)
    (answered : (tool c.world.invocations target).outcome = .ok records) :
    literal tool monitor origin target c =
      reportWork monitor (c.answerLiteral tool origin target records.values) := by
  simp only [literal, Step.bind_apply, Step.cache_apply, absent, Step.log_apply,
    compute_answered tool origin answered, Step.changeReport_apply]
  by_cases found : (Records.canonical records.values).contains target = true
  · simp only [Call.answerLiteral, found, if_true, Step.bind_apply]
    rfl
  · by_cases known :
        (c.learn tool origin target records.values).report.infos.contains target = true
    · simp only [Call.answerLiteral, found, known, if_true, Bool.false_eq_true, if_false]
      have merged : (c.report.merge (Records.canonical records.values)).infos.contains target =
          true := known
      simp only [Step.bind_apply, Step.get_apply, merged, if_true]
      rfl
    · simp only [Call.answerLiteral, found, known, Bool.false_eq_true, if_false]
      have merged : ¬(c.report.merge (Records.canonical records.values)).infos.contains target =
          true := known
      simp only [Step.bind_apply, Step.get_apply, merged, Bool.false_eq_true, if_false,
        fallback_eq]
      rfl

theorem wildcard_cycle {c : Call σ} (depth : Nat) {visiting : List String} {target : String}
    (met : visiting.contains target = true) :
    wildcard tool monitor origin (depth + 1) visiting target c =
      .error (.expansionCycle target) c := by
  simp only [wildcard, met, if_true, Step.bind_apply, Step.throw_apply]

/-- One member of the expansion of a wildcard. -/
def member (depth : Nat) (visiting : List String) (sub : String) : Step σ Unit :=
  match Label.parse sub with
  | .error fault => throw (.input (.label fault))
  | .ok label =>
    if label.isWildcard then wildcard tool monitor origin depth visiting sub
    else literal tool monitor origin sub

/-- The wildcard that was asked for is not nested too deep itself. -/
theorem nestingLimit_eq_succ : nestingLimit = (nestingLimit - 1) + 1 :=
  rfl

theorem wildcard_remembered {c : Call σ} (depth : Nat) {visiting : List String} {target : String}
    {expansion : List String} (fresh : visiting.contains target = false)
    (remembered : c.world.cache.wildcards.get? target = some expansion) :
    wildcard tool monitor origin (depth + 1) visiting target c =
      expansion.forM (member tool monitor origin depth (target :: visiting)) c := by
  simp only [wildcard, fresh, Bool.false_eq_true, if_false, Step.bind_apply,
    Step.cache_apply, remembered]
  rfl

theorem wildcard_refused {c : Call σ} (depth : Nat) {visiting : List String} {target : String}
    {f : Failure} (fresh : visiting.contains target = false)
    (unknown : c.world.cache.wildcards.get? target = none)
    (refused : (tool c.world.invocations target).outcome = .error f) :
    wildcard tool monitor origin (depth + 1) visiting target c =
      .error f (c.ask tool origin target) := by
  simp only [wildcard, fresh, Bool.false_eq_true, if_false, Step.bind_apply,
    Step.cache_apply, unknown, Step.log_apply, compute_refused tool origin refused]

theorem wildcard_answered {c : Call σ} (depth : Nat) {visiting : List String} {target : String}
    {label : Label} {records : Records} (fresh : visiting.contains target = false)
    (read : Label.parse target = .ok label)
    (unknown : c.world.cache.wildcards.get? target = none)
    (answered : (tool c.world.invocations target).outcome = .ok records) :
    wildcard tool monitor origin (depth + 1) visiting target c = reportWork monitor
      (c.answerWildcard tool origin target label.package records.values) := by
  simp only [wildcard, fresh, Bool.false_eq_true, if_false, Step.bind_apply,
    Step.cache_apply, unknown, Step.log_apply, compute_answered tool origin answered,
    Call.answerWildcard, Call.learn]
  split
  next none =>
    simp only [Step.bind_apply, fallbackPackage_eq origin _ read, OrderedMap.isEmpty_iff.1 none,
      merge_empty]
  next some => rfl

theorem request_eq {c : Call σ} {target : String} :
    request tool monitor origin target c =
      match monitor.isCanceled c.world with
      | .error f w => .error f { c with world := w }
      | .ok true w => .error (.resolveCanceled target) { c with world := w }
      | .ok false w =>
        match Label.parse target with
        | .error fault => .error (.input (.label fault)) { c with world := w }
        | .ok label =>
          if label.isWildcard then
            wildcard tool monitor origin nestingLimit [] label.canonical.text { c with world := w }
          else literal tool monitor origin label.canonical.text { c with world := w } := by
  simp only [request, Step.bind_apply, Step.act]
  cases monitor.isCanceled c.world with
  | error f w => rfl
  | ok canceled w =>
    cases canceled with
    | true => rfl
    | false =>
      cases Label.parse target with
      | error fault => rfl
      | ok label => cases wild : label.isWildcard <;> simp [wild]

end Resolve

namespace Cache

variable {σ : Type} (tool : Tool) (monitor : Monitor σ) (origin : Origin)

theorem resolveWithReport_eq (targets : List String) (w : World σ) :
    resolveWithReport tool monitor origin targets w =
      match monitor.subTask resolveTask w with
      | .error f v => .error f v
      | .ok _ v =>
        match Resolve.requests tool monitor origin targets ⟨.empty, v⟩ with
        | .error f c => .error (Resolve.withFound c.report.infos f) c.world
        | .ok _ c =>
          match monitor.worked c.report.infos.size c.world with
          | .error f u => .error f u
          | .ok _ u => .ok c.report (u.tell (Resolve.warnings origin c.report)) := by
  have started : resolveWithReport tool monitor origin targets w =
      match monitor.subTask resolveTask w with
      | .error f v => .error f v
      | .ok _ v =>
        match Resolve.collect tool monitor origin targets v with
        | .error f u => .error f u
        | .ok report u =>
          match monitor.worked report.infos.size u with
          | .error f t => .error f t
          | .ok _ t => .ok report (t.tell (Resolve.warnings origin report)) := by
    simp only [resolveWithReport, bind, EStateM.bind]
    cases monitor.subTask resolveTask w with
    | error f v => rfl
    | ok _ v =>
      simp only
      cases Resolve.collect tool monitor origin targets v with
      | error f u => rfl
      | ok report u =>
        simp only
        cases monitor.worked report.infos.size u <;> rfl
  rw [started]
  cases monitor.subTask resolveTask w with
  | error f v => rfl
  | ok _ v =>
    simp only [Resolve.collect]
    cases Resolve.requests tool monitor origin targets ⟨.empty, v⟩ <;> rfl

end Cache

end WorkspaceImport
