import WorkspaceImport.Cache.Basic
/-!
Resolving targets to records. A target that is cached is answered at once; for others the tool is
run, and when that brings nothing, the last known record has to do. Wildcards are expanded to the
targets that they were last found to stand for. The report survives a failure, so that what was found
before the tool failed can go with it.
-/
namespace WorkspaceImport

structure Call (σ : Type) where
  report : Report
  world : World σ

abbrev Step (σ : Type) := EStateM Failure (Call σ)

namespace Step

variable {σ : Type}

def act {α : Type} (a : Action σ α) : Step σ α := fun c =>
  match a c.world with
  | .ok x w => .ok x { c with world := w }
  | .error f w => .error f { c with world := w }

def log (e : Event) : Step σ Unit :=
  modify fun c => { c with world := c.world.log e }

def tell (notes : List Note) : Step σ Unit :=
  modify fun c => { c with world := c.world.tell notes }

def cache : Step σ Cache := do
  return (← get).world.cache

def changeCache (f : Cache → Cache) : Step σ Unit :=
  modify fun c => { c with world := { c.world with cache := f c.world.cache } }

def changeReport (f : Report → Report) : Step σ Unit :=
  modify fun c => { c with report := f c.report }

end Step

namespace Resolve

variable {σ : Type} (tool : Tool) (monitor : Monitor σ) (origin : Origin)

def reportWork : Step σ Unit := do
  Step.act (monitor.worked (← get).report.infos.size)

/-- Running the tool for one target, and keeping every record that it brings. The answer has the
records under their canonical labels. -/
def compute (target : String) : Step σ Records := do
  let before := (← get).world.invocations
  let said := tool before target
  unless said.lacksCommand do
    Step.log (.invoked target)
  Step.tell said.notes
  match said.outcome with
  | .error f => throw f
  | .ok records =>
    modify fun c => { c with world := records.values.foldl (World.produce origin) c.world }
    pure (OrderedMap.ofList (records.values.map fun info => (canonicalLabel info.label, info)))

def fallback (target : String) : Step σ Unit := do
  match (← Step.cache).lastGood.get? target with
  | some info =>
    Step.log (.stale target origin)
    Step.changeReport fun r => r.addDegraded target info
  | none =>
    Step.log (.failed target origin)
    Step.changeReport fun r => r.addMissing target

/-- All last known records of the package of a wildcard for which the tool brought nothing. -/
def fallbackPackage (target : String) : Step σ Unit := do
  match Label.parse target with
  | .error fault => throw (.input (.label fault))
  | .ok label =>
    let stale := (← Step.cache).staleOf label.package
    if stale.isEmpty then
      Step.log (.failed target origin)
      Step.changeReport fun r => r.addMissing target
    else
      Step.tell [.stalePackage target stale.size origin]
      Step.changeReport fun r => stale.entries.foldl (fun r e => r.addDegraded e.1 e.2) r

def literal (target : String) : Step σ Unit := do
  match (← Step.cache).current.get? target with
  | some info =>
    Step.log (.hit target origin)
    Step.changeReport fun r => r.addHit target info
    Step.changeCache Cache.countHit
  | none =>
    Step.log (.missed target origin)
    let found ← compute tool origin target
    Step.changeReport fun r => r.merge found
    if found.contains target then
      Step.changeReport fun r => r.addComputed [target]
    else if (← get).report.infos.contains target then
      pure ()
    else
      fallback origin target
  reportWork monitor

/-- One wildcard; `visiting` holds the wildcards in whose expansions it was met. -/
def wildcard : Nat → List String → String → Step σ Unit
  | 0, _, _ => throw .nestedTooDeep
  | depth + 1, visiting, target => do
    if visiting.contains target then throw (.expansionCycle target)
    match (← Step.cache).wildcards.get? target with
    | some expansion =>
      expansion.forM fun sub =>
        match Label.parse sub with
        | .error fault => throw (.input (.label fault))
        | .ok label =>
          if label.isWildcard then wildcard depth (target :: visiting) sub
          else literal tool monitor origin sub
    | none =>
      Step.log (.missed target origin)
      let found ← compute tool origin target
      if found.isEmpty then fallbackPackage origin target
      else
        Step.changeCache fun c => c.remember target found.keys
        Step.changeReport fun r => (r.merge found).addComputed found.keys
      reportWork monitor

def request (target : String) : Step σ Unit := do
  if ← Step.act monitor.isCanceled then throw (.resolveCanceled target)
  match Label.parse target with
  | .error fault => throw (.input (.label fault))
  | .ok label =>
    if label.isWildcard then wildcard tool monitor origin nestingLimit [] label.canonical.text
    else literal tool monitor origin label.canonical.text

def requests (targets : List String) : Step σ Unit :=
  targets.forM (request tool monitor origin)

def withFound (found : Records) : Failure → Failure
  | .invocation fault _ => .invocation fault found
  | f => f

def collect (targets : List String) : Action σ Report := fun w =>
  match requests tool monitor origin targets ⟨.empty, w⟩ with
  | .ok () c => .ok c.report c.world
  | .error f c => .error (withFound c.report.infos f) c.world

/-- What is told at the end about targets that were not answered as they should be. -/
def warnings (r : Report) : List Note :=
  (if r.degraded.isEmpty then [] else [.degraded r.degraded origin]) ++
    (if r.missing.isEmpty then [] else [.omitted r.missing origin])

end Resolve

namespace Cache

variable {σ : Type} (tool : Tool) (monitor : Monitor σ) (origin : Origin)

def resolveTask : String := "Load Bazel dependency information"

def resolveWithReport (targets : List String) : Action σ Report := do
  monitor.subTask resolveTask
  let report ← Resolve.collect tool monitor origin targets
  monitor.worked report.infos.size
  modify fun w => w.tell (Resolve.warnings origin report)
  pure report

def resolve (targets : List String) : Action σ Records := do
  return (← resolveWithReport tool monitor origin targets).infos

end Cache

end WorkspaceImport
