import WorkspaceImport.Failure
/-!
What a session remembers about targets. `current` holds the records since the last flush, `wildcards`
the targets that a wildcard was found to stand for, and `lastGood` the last record of every target
ever seen, which is used when the build tool does not answer any more.
-/
namespace WorkspaceImport

structure Cache where
  current : Records
  wildcards : OrderedMap String (List String)
  lastGood : Records
  hits : Nat

namespace Cache

def empty : Cache := ⟨.empty, .empty, .empty, 0⟩

instance : Inhabited Cache := ⟨empty⟩

def isCached (c : Cache) (target : String) : Bool :=
  c.current.contains (canonicalLabel target)

def hasLastGood (c : Cache) (target : String) : Bool :=
  c.lastGood.contains (canonicalLabel target)

def expansion? (c : Cache) (target : String) : Option (List String) :=
  c.wildcards.get? (canonicalLabel target)

def store (c : Cache) (info : PackageInfo) : Cache :=
  let target := canonicalLabel info.label
  { c with
    current := c.current.insert target info
    lastGood := c.lastGood.insert target info }

def remember (c : Cache) (wildcard : String) (targets : List String) : Cache :=
  { c with wildcards := c.wildcards.insert wildcard targets }

def countHit (c : Cache) : Cache :=
  { c with hits := c.hits + 1 }

def flush (c : Cache) : Cache :=
  { c with current := .empty, wildcards := .empty }

def drop (c : Cache) (target : String) : Cache :=
  { c with
    current := c.current.erase (canonicalLabel target)
    wildcards := c.wildcards.erase (canonicalLabel target) }

def staleOf (c : Cache) (package : String) : Records :=
  c.lastGood.filter fun _ info => info.package = package

end Cache

/-- What a resolution found, and how. Targets of which an older record had to do are `degraded`, and
targets without any record are `missing`. -/
structure Report where
  infos : Records
  hits : List String
  computed : List String
  degraded : List String
  missing : List String

namespace Report

def empty : Report := ⟨.empty, [], [], [], []⟩

instance : Inhabited Report := ⟨empty⟩

def complete (r : Report) : Bool :=
  r.degraded.isEmpty && r.missing.isEmpty

def addHit (r : Report) (target : String) (info : PackageInfo) : Report :=
  { r with infos := r.infos.insert target info, hits := r.hits ++ [target] }

/-- New records replace those of the same targets, which then are no longer degraded or missing. -/
def merge (r : Report) (found : Records) : Report :=
  { r with
    infos := r.infos.update found
    degraded := r.degraded.filter fun target => !found.contains target
    missing := r.missing.filter fun target => !found.contains target }

def addComputed (r : Report) (targets : List String) : Report :=
  { r with computed := r.computed ++ targets }

def addDegraded (r : Report) (target : String) (info : PackageInfo) : Report :=
  { r with infos := r.infos.insert target info, degraded := r.degraded ++ [target] }

def addMissing (r : Report) (target : String) : Report :=
  { r with missing := r.missing ++ [target] }

end Report

/-- The state of a session as the cache sees it: what is remembered, what happened, newest first, and
what the one who watches keeps for itself. -/
structure World (σ : Type) where
  cache : Cache
  journal : List Event
  client : σ

namespace World

variable {σ : Type}

def log (w : World σ) (e : Event) : World σ :=
  { w with journal := e :: w.journal }

def tell (w : World σ) (notes : List Note) : World σ :=
  notes.foldl (fun w note => w.log (.told note)) w

def invocations (w : World σ) : List String :=
  w.journal.filterMap fun e => match e with | .invoked target => some target | _ => none

def produce (origin : Origin) (w : World σ) (info : PackageInfo) : World σ :=
  { w.log (.produced (canonicalLabel info.label) info origin) with cache := w.cache.store info }

def flush (w : World σ) : World σ :=
  { w.log .flushed with cache := w.cache.flush }

def drop (w : World σ) (target : String) : World σ :=
  { w.log (.dropped (canonicalLabel target)) with cache := w.cache.drop target }

end World

abbrev Action (σ : Type) := EStateM Failure (World σ)

/-- Somebody who is told of the progress and may cancel. The functions may use the session. -/
structure Monitor (σ : Type) where
  subTask : String → Action σ Unit
  worked : Nat → Action σ Unit
  isCanceled : Action σ Bool

def Monitor.silent {σ : Type} : Monitor σ where
  subTask _ := pure ()
  worked _ := pure ()
  isCanceled := pure false

/-- The build tool as the cache uses it: the records of a run for one target. The answer may depend on
the runs before, which are given newest first. -/
abbrev Tool := List String → String → Reported Records

namespace Cache

variable {σ : Type}

def flushAll : Action σ Unit :=
  modify World.flush

def flushFor (targets : List String) : Action σ Unit :=
  modify fun w => targets.foldl World.drop w

end Cache

end WorkspaceImport
