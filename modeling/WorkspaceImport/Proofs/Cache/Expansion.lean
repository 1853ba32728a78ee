import WorkspaceImport.Proofs.Cache.Passive
import WorkspaceImport.Proofs.Cache.Remembered
import WorkspaceImport.Proofs.Outcome
import WorkspaceImport.Session
/-!
Wildcards that are resolved again. An expansion holds the labels of the records that the tool brought
for its wildcard, and is read as labels only when the wildcard is resolved again. If the records are
labelled, then all that can go wrong by itself in a resolution is that expansions which are remembered
lead from one wildcard to the next, and back.
-/
namespace WorkspaceImport

open Relation (ReflTransGen TransGen)

def Cache.Expanded (tool : Tool) (cache : Cache) : Prop :=
  ∀ wildcard targets, cache.wildcards.get? wildcard = some targets → tool.Expands wildcard targets

theorem Effect.expansion {σ : Type} {tool : Tool} {v w : World σ} (effect : Effect tool v w)
    {wildcard : String} {targets : List String}
    (found : w.cache.wildcards.get? wildcard = some targets) :
    v.cache.wildcards.get? wildcard = some targets ∨
      targets ≠ [] ∧ tool.Expands wildcard targets := by
  cases effect with
  | idle _ => exact .inl found
  | hit _ _ => exact .inl found
  | refused origin _ =>
    rw [World.ask_cache] at found
    exact .inl found
  | learned origin _ =>
    rw [World.learn_cache] at found
    exact .inl found
  | remembered some brought _ =>
    simp only [World.remember, Cache.remember, OrderedMap.get?_insert] at found
    split at found
    next same =>
      rw [← same, ← Option.some.inj found]
      exact .inr ⟨some, brought⟩
    next => exact .inl found
  | flushed => cases found
  | dropped target =>
    simp only [World.drop, Cache.drop, OrderedMap.get?_erase] at found
    split at found
    next => cases found
    next => exact .inl found

theorem Effect.expanded {σ : Type} {tool : Tool} {v w : World σ} (effect : Effect tool v w)
    (earlier : v.cache.Expanded tool) : w.cache.Expanded tool := by
  intro wildcard targets found
  obtain before | ⟨-, brought⟩ := effect.expansion found
  · exact earlier wildcard targets before
  · exact brought

theorem Snapshot.Reachable.expanded {tool : Tool} {s : Snapshot} (reached : s.Reachable tool) :
    s.cache.Expanded tool :=
  reached.keep (I := fun s => s.cache.Expanded tool) (fun _ _ found => by cases found)
    fun _ _ effect => effect.expanded

namespace Tool

variable {tool : Tool} {wildcard : String} {targets : List String}

/-- All records that the tool brings have labels. -/
def Labelled (tool : Tool) : Prop :=
  ∀ earlier target records, (tool earlier target).outcome = .ok records →
    ∀ info ∈ records.values, ∃ label, Label.parse info.label = .ok label

/-- A run of the tool may fail like this. -/
def Fails (tool : Tool) (f : Failure) : Prop :=
  ∃ earlier target, (tool earlier target).outcome = .error f

theorem Expands.read (brought : tool.Expands wildcard targets) (labelled : tool.Labelled) :
    ∀ target ∈ targets, ∃ label, Label.parse target = .ok label := by
  obtain ⟨earlier, records, answered, rfl⟩ := brought
  intro target member
  obtain ⟨info, found⟩ := OrderedMap.contains_iff.1 (OrderedMap.contains_iff_mem_keys.2 member)
  obtain ⟨among, own⟩ := Records.mem_of_get?_canonical found
  obtain ⟨label, read⟩ := labelled earlier wildcard records answered info among
  exact ⟨label.canonical, own ▸ parse_canonicalLabel read⟩

theorem BringsFor.expands {before after : List String}
    (brought : tool.BringsFor before after wildcard targets) : tool.Expands wildcard targets := by
  obtain ⟨earlier, records, _, _, answered, keys⟩ := brought
  exact ⟨earlier, records, answered, keys⟩

end Tool

/-- One who watches may fail like this. -/
inductive Monitor.Fails {σ : Type} (monitor : Monitor σ) (f : Failure) : Prop where
  | subTask {text : String} {w v : World σ} (failed : monitor.subTask text w = .error f v)
  | worked {units : Nat} {w v : World σ} (failed : monitor.worked units w = .error f v)
  | isCanceled {w v : World σ} (failed : monitor.isCanceled w = .error f v)

theorem Monitor.Passive.not_fails {σ : Type} {monitor : Monitor σ} (passive : monitor.Passive)
    (f : Failure) : ¬monitor.Fails f := by
  rintro (@⟨text, w, v, failed⟩ | @⟨units, w, v, failed⟩ | @⟨w, v, failed⟩)
  · obtain ⟨_, returned, _⟩ := passive.subTask text w
    rw [returned] at failed
    cases failed
  · obtain ⟨_, returned, _⟩ := passive.worked units w
    rw [returned] at failed
    cases failed
  · obtain ⟨_, _, returned, _⟩ := passive.isCanceled w
    rw [returned] at failed
    cases failed

namespace Resolve

variable {σ : Type} {tool : Tool} {monitor : Monitor σ} {origin : Origin} {c d : Call σ}
  {f : Failure} {E : Expansions}

inductive Cause (tool : Tool) (monitor : Monitor σ) (E : Expansions) (start : String) :
    Failure → Prop where
  | refused {f : Failure} (failed : tool.Fails f) : Cause tool monitor E start f
  | watched {f : Failure} (failed : monitor.Fails f) : Cause tool monitor E start f
  | canceled {w v : World σ} (target : String) (answered : monitor.isCanceled w = .ok true v) :
      Cause tool monitor E start (.resolveCanceled target)
  | cycle {other : String} (led : ReflTransGen E.Leads start other)
      (back : TransGen E.Leads other other) : Cause tool monitor E start (.expansionCycle other)
  | nested {other : String} (led : E.LeadsIn nestingLimit start other) :
      Cause tool monitor E start .nestedTooDeep

/-- All that is remembered of wildcards at the turns from one call to another. -/
def Covers (tool : Tool) (monitor : Monitor σ) (origin : Origin) (E : Expansions) (c d : Call σ) :
    Prop :=
  ∀ b, Turns tool monitor origin c b → Turns tool monitor origin b d →
    ∀ wildcard members, b.world.cache.expansions wildcard members → E wildcard members

theorem Covers.later {b : Call σ} (covers : Covers tool monitor origin E c d)
    (turns : Turns tool monitor origin c b) : Covers tool monitor origin E b d :=
  fun a onward => covers a (turns.trans onward)

theorem reportWork_error (failed : reportWork monitor c = .error f d) : monitor.Fails f := by
  rw [reportWork_apply] at failed
  split at failed
  next => cases failed
  next w stopped =>
    cases failed
    exact .worked stopped

theorem literal_error (start : String) {target : String}
    (failed : literal tool monitor origin target c = .error f d) :
    Cause tool monitor E start f := by
  cases cached : c.world.cache.current.get? target with
  | some info =>
    rw [literal_hit tool monitor origin cached] at failed
    exact .watched (reportWork_error failed)
  | none =>
    cases said : (tool c.world.invocations target).outcome with
    | error g =>
      rw [literal_refused tool monitor origin cached said] at failed
      cases failed
      exact .refused ⟨_, target, said⟩
    | ok records =>
      rw [literal_answered tool monitor origin cached said] at failed
      exact .watched (reportWork_error failed)

variable (readable : ∀ wildcard members, E wildcard members → ∀ target ∈ members,
  ∃ label, Label.parse target = .ok label)
include readable

/-- A wildcard fails by itself only where expansions led to it from the wildcard that was asked for:
all wildcards on the way lead to it, so one that is met again leads back. -/
theorem wildcard_error {n depth : Nat} {start target : String} {visiting : List String}
    {label : Label} (read : Label.parse target = .ok label) (wild : label.isWildcard = true)
    (led : E.LeadsIn n start target) (left : n + depth = nestingLimit)
    (way : ∀ before ∈ visiting, TransGen E.Leads before target)
    (covers : Covers tool monitor origin E c d)
    (failed : wildcard tool monitor origin depth visiting target c = .error f d) :
    Cause tool monitor E start f := by
  -- The way so far and what is left of the limit make up the whole limit, so at the end of it the
  -- expansions have led as many times as there are calls.
  induction depth generalizing n visiting target label c with
  | zero =>
    cases failed
    rw [Nat.add_zero] at left
    exact .nested (left ▸ led)
  | succ depth ih =>
    cases fresh : visiting.contains target with
    | true =>
      rw [wildcard_cycle tool monitor origin depth fresh] at failed
      cases failed
      exact .cycle led.reflTransGen (way target (List.contains_iff_mem.1 fresh))
    | false =>
      cases known : c.world.cache.wildcards.get? target with
      | none =>
        cases said : (tool c.world.invocations target).outcome with
        | error g =>
          rw [wildcard_refused tool monitor origin depth fresh known said] at failed
          cases failed
          exact .refused ⟨_, target, said⟩
        | ok records =>
          rw [wildcard_answered tool monitor origin depth fresh read known said] at failed
          exact .watched (reportWork_error failed)
      | some expansion =>
        have onward : Turns tool monitor origin c d := by
          have all := wildcard_turns tool monitor origin (depth + 1) visiting read wild c
          rw [failed] at all
          exact all
        have stands : E target expansion := covers c .refl onward target expansion known
        rw [wildcard_remembered tool monitor origin depth fresh known] at failed
        obtain ⟨done, sub, rest, b, whole, went, stopped⟩ := Step.forM_error failed
        have among : sub ∈ expansion := by
          rw [whole]
          exact List.mem_append_right done List.mem_cons_self
        obtain ⟨inner, inside⟩ := readable target expansion stands sub among
        have turns : Turns tool monitor origin c b := (Call.Chain.forM
          (member_turns tool monitor origin
            (wildcard_turns tool monitor origin depth (target :: visiting))) done c).of_ok went
        simp only [member, inside] at stopped
        split at stopped
        next wild =>
          -- Every wildcard on the way leads to this member by one step more, and so does the target.
          have next : E.Leads target sub := ⟨expansion, stands, among, inner, inside, wild⟩
          have longer : ∀ before ∈ target :: visiting, TransGen E.Leads before sub := by
            intro before met
            rcases List.mem_cons.1 met with rfl | earlier
            · exact .single next
            · exact .tail (way before earlier) next
          have further : E.LeadsIn (n + 1) start sub := ⟨target, led, next⟩
          exact ih inside wild further (by omega) longer (covers.later turns) stopped
        next => exact literal_error start stopped

theorem request_error {target : String} {label : Label} (read : Label.parse target = .ok label)
    (covers : Covers tool monitor origin E c d)
    (failed : request tool monitor origin target c = .error f d) :
    Cause tool monitor E (canonicalLabel target) f := by
  have first : Turn tool monitor origin c _ := .asked c
  rw [request_eq] at failed
  cases asked : monitor.isCanceled c.world with
  | error g w =>
    rw [asked] at failed
    cases failed
    exact .watched (.isCanceled asked)
  | ok canceled w =>
    rw [asked] at failed first
    cases canceled with
    | true =>
      cases failed
      exact .canceled target asked
    | false =>
      simp only [read] at failed
      split at failed
      next wild =>
        have way : ∀ before ∈ ([] : List String), TransGen E.Leads before label.canonical.text :=
          nofun
        have led : E.LeadsIn 0 label.canonical.text label.canonical.text := rfl
        rw [canonicalLabel, read]
        exact wildcard_error readable (Label.parse_canonical read) (Label.isWildcard_canonical wild)
          led (Nat.zero_add _) way (covers.later (.single first)) failed
      next => exact literal_error _ failed

theorem requests_error {targets : List String}
    (read : ∀ target ∈ targets, ∃ label, Label.parse target = .ok label)
    (covers : Covers tool monitor origin E c d)
    (failed : requests tool monitor origin targets c = .error f d) :
    ∃ target ∈ targets, Cause tool monitor E (canonicalLabel target) f := by
  obtain ⟨done, target, rest, b, whole, went, stopped⟩ := Step.forM_error failed
  have among : target ∈ targets := by
    rw [whole]
    exact List.mem_append_right done List.mem_cons_self
  have turns := (requests_turns tool monitor origin done c).of_ok went
  obtain ⟨label, labels⟩ := read target among
  exact ⟨target, among, request_error readable labels (covers.later turns) stopped⟩

end Resolve

namespace Failure

/-- What somebody handed in was refused. -/
def isInvalid : Failure → Bool
  | .input _ => true
  | _ => false

/-- Something leads back into itself. -/
def isStructural : Failure → Bool
  | .expansionCycle _ | .dependencyCycle _ => true
  | _ => false

theorem isInvalid_withFound (found : Records) (f : Failure) :
    (Resolve.withFound found f).isInvalid = f.isInvalid := by
  cases f <;> rfl

theorem isStructural_withFound (found : Records) (f : Failure) :
    (Resolve.withFound found f).isStructural = f.isStructural := by
  cases f <;> rfl

end Failure

theorem Variant.loadModern_eq_error {files : FileTree} {paths : List Path} {f : Failure}
    (failed : (loadModern files paths).outcome = .error f) : f = .nestedTooDeep := by
  induction paths with
  | nil => cases failed
  | cons path rest ih =>
    unfold loadModern at failed
    split at failed
    next =>
      cases failed
      rfl
    next => exact ih failed
    next => exact ih (except_map_eq_error.1 failed)

theorem Variant.load_fails {v : Variant} {files : FileTree} {paths : List Path} {f : Failure}
    (failed : (v.load files paths).outcome = .error f) :
    f.isInvalid = false ∧ f.isStructural = false := by
  unfold load at failed
  split at failed
  next =>
    simp only at failed
    split at failed
    next => cases failed
    next path fault _ =>
      cases failed
      unfold artifactFailure
      split <;> exact ⟨rfl, rfl⟩
  next =>
    rw [Variant.loadModern_eq_error (except_map_eq_error.1 failed)]
    exact ⟨rfl, rfl⟩

/-- Running the real tool never fails because something was refused that somebody handed in, nor because
of something that leads back into itself. -/
theorem AspectRun.tool_fails {r : AspectRun} {s : Surroundings} {f : Failure}
    (failed : (r.tool s).Fails f) : f.isInvalid = false ∧ f.isStructural = false := by
  obtain ⟨earlier, target, said⟩ := failed
  unfold tool at said
  simp only at said
  split at said
  next g refused =>
    cases said
    unfold Invoker.run at refused
    split at refused
    next =>
      cases refused
      exact ⟨rfl, rfl⟩
    next =>
      simp only at refused
      split at refused
      next fault _ =>
        cases refused
        cases fault <;> exact ⟨rfl, rfl⟩
      next => cases refused
  next invocation answered => exact Variant.load_fails said

namespace Cache

variable {σ : Type} {tool : Tool} {monitor : Monitor σ} {origin : Origin} {targets : List String}
  {w w' : World σ} {f : Failure}

theorem cause_of_error {E : Expansions}
    (readable : ∀ wildcard members, E wildcard members → ∀ target ∈ members,
      ∃ label, Label.parse target = .ok label)
    (covers : ∀ v d, monitor.subTask resolveTask w = .ok () v → d.world = w' →
      Resolve.Covers tool monitor origin E ⟨.empty, v⟩ d)
    (read : ∀ target ∈ targets, ∃ label, Label.parse target = .ok label)
    (failed : resolveWithReport tool monitor origin targets w = .error f w') :
    monitor.Fails f ∨ ∃ target ∈ targets, ∃ g found, f = Resolve.withFound found g ∧
      Resolve.Cause tool monitor E (canonicalLabel target) g := by
  rw [resolveWithReport_eq] at failed
  cases started : monitor.subTask resolveTask w with
  | error g v =>
    rw [started] at failed
    cases failed
    exact .inl (.subTask started)
  | ok _ v =>
    rw [started] at failed
    simp only at failed
    cases run : Resolve.requests tool monitor origin targets ⟨.empty, v⟩ with
    | error g c =>
      rw [run] at failed
      cases failed
      obtain ⟨target, among, cause⟩ :=
        Resolve.requests_error readable read (covers v c started rfl) run
      exact .inr ⟨target, among, g, _, rfl, cause⟩
    | ok _ c =>
      rw [run] at failed
      simp only at failed
      split at failed
      next g u stopped =>
        cases failed
        exact .inl (.worked stopped)
      next => cases failed

theorem covers_until (uses : monitor.UsesCache tool) {v : World σ} {d : Call σ}
    (started : monitor.subTask resolveTask w = .ok () v) :
    Resolve.Covers tool monitor origin (w.snapshot.expansionsUntil tool d.world.snapshot)
      ⟨.empty, v⟩ d := by
  have watched (s : Snapshot) : monitor.Keeps fun w : World σ => s.Continues tool w.snapshot :=
    uses _ (continues_operations s) fun _ _ continues => continues
  intro b before after wildcard members remembered
  have begun : w.snapshot.Continues tool v.snapshot :=
    ((watched w.snapshot).subTask resolveTask).ok started (.refl _)
  have here : w.snapshot.Continues tool b.world.snapshot :=
    before.keep_world (continues_resolving _) (watched _) begun
  have rest : b.world.snapshot.Continues tool d.world.snapshot :=
    after.keep_world (continues_resolving _) (watched _) (.refl _)
  exact Snapshot.expansionsUntil_mono rest.runs (here.expansions wildcard members remembered)

theorem covers_passive (passive : monitor.Passive) (c d : Call σ) :
    Resolve.Covers tool monitor origin d.world.cache.expansions c d :=
  fun _ _ after wildcard members remembered =>
    after.keep_world (remembered_resolving wildcard members)
      (passive.keeps fun cache => cache.expansions wildcard members) remembered

/-- Whatever comes up by itself in a call is not that a target is refused, and that something leads
back into itself only where expansions go in circles. -/
theorem circles_of_error {E : Expansions}
    (readable : ∀ wildcard members, E wildcard members → ∀ target ∈ members,
      ∃ label, Label.parse target = .ok label)
    (covers : ∀ v d, monitor.subTask resolveTask w = .ok () v → d.world = w' →
      Resolve.Covers tool monitor origin E ⟨.empty, v⟩ d)
    (read : ∀ target ∈ targets, ∃ label, Label.parse target = .ok label)
    (plain : ∀ f, tool.Fails f ∨ monitor.Fails f → f.isInvalid = false ∧ f.isStructural = false)
    (failed : resolveWithReport tool monitor origin targets w = .error f w') :
    f.isInvalid = false ∧ (f.isStructural = true → E.Circles targets f) := by
  have other {g : Failure} {P : Prop} (fails : tool.Fails g ∨ monitor.Fails g) :
      g.isInvalid = false ∧ (g.isStructural = true → P) := by
    obtain ⟨valid, straight⟩ := plain g fails
    exact ⟨valid, fun structural => by rw [straight] at structural; cases structural⟩
  rcases cause_of_error readable covers read failed with
    stopped | ⟨target, among, g, found, rfl, cause⟩
  · exact other (.inr stopped)
  · rw [Failure.isInvalid_withFound, Failure.isStructural_withFound]
    cases cause with
    | refused failed => exact other (.inl failed)
    | watched failed => exact other (.inr failed)
    | canceled _ _ => exact ⟨rfl, nofun⟩
    | @cycle other led back => exact ⟨rfl, fun _ => ⟨target, among, other, rfl, led, back⟩⟩
    | nested _ => exact ⟨rfl, nofun⟩

theorem Expanded.readable (expanded : w.cache.Expanded tool) (labelled : tool.Labelled) :
    ∀ wildcard members, w.cache.expansions wildcard members → ∀ target ∈ members,
      ∃ label, Label.parse target = .ok label := fun wildcard members remembered =>
  (expanded wildcard members remembered).read labelled

/-- If the tool always answers and nobody interferes, then a call for labels returns, unless what is
remembered after it leads from one of them back to a wildcard, or on and on. -/
theorem resolveWithReport_returns (labelled : tool.Labelled) (answers : ∀ f, ¬tool.Fails f)
    (patient : monitor.Patient) (expanded : w.cache.Expanded tool)
    (read : ∀ target ∈ targets, ∃ label, Label.parse target = .ok label)
    (settles : ∀ target ∈ targets,
      (stateAfter (resolveWithReport tool monitor origin targets w)).cache.expansions.Settles
        (canonicalLabel target)) :
    ∃ report w', resolveWithReport tool monitor origin targets w = .ok report w' := by
  have kept : Action.Keeps (fun w => w.cache.Expanded tool)
      (resolveWithReport tool monitor origin targets) :=
    resolveWithReport_keep (fun _ _ effect => effect.expanded)
      (patient.keeps fun cache => cache.Expanded tool) targets
  cases outcome : resolveWithReport tool monitor origin targets w with
  | ok report w' => exact ⟨report, w', rfl⟩
  | error f w' =>
    rw [outcome] at settles
    have readable := (kept.error outcome expanded).readable labelled
    have covers (v : World σ) (d : Call σ) (_ : monitor.subTask resolveTask w = .ok () v)
        (last : d.world = w') :
        Resolve.Covers tool monitor origin w'.cache.expansions ⟨.empty, v⟩ d :=
      last ▸ covers_passive patient.toPassive _ d
    rcases cause_of_error readable covers read outcome with
      stopped | ⟨target, among, g, found, _, cause⟩
    · exact absurd stopped (patient.not_fails f)
    · cases cause with
      | refused failed => exact absurd failed (answers g)
      | watched failed => exact absurd failed (patient.not_fails g)
      | canceled other answered => cases patient.goesOn _ _ _ answered
      | cycle led back => exact absurd back ((settles target among).straight _ led)
      | nested led => exact absurd led ((settles target among).shallow _)

theorem settles_after (patient : monitor.Patient) {start : String}
    (settles : w.cache.expansions.Settles start)
    (known : ∀ other, ReflTransGen w.cache.expansions.Leads start other →
      w.cache.wildcards.contains other = true) :
    (stateAfter (resolveWithReport tool monitor origin targets w)).cache.expansions.Settles
      start := by
  refine settles.of_same fun other led members after => ?_
  obtain ⟨before, remembered⟩ := OrderedMap.contains_iff.1 (known other led)
  have still : (stateAfter (resolveWithReport tool monitor origin targets w)).cache.expansions other
      before :=
    (remembered_resolving other before).resolveWithReport
      (patient.keeps fun cache => cache.expansions other before) targets w remembered
  rw [Cache.expansions, after] at still
  rw [Option.some.inj still]
  exact remembered

/-- A tool that brings records with labels. Then whatever is remembered of a wildcard are the labels of
the records that a run for it brought, and can be read as labels again. A call for labels refuses none
of them. It finds something structural only where members of expansions lead from a target to a
wildcard and from there back to it, all of them remembered at the beginning or brought by runs during
the call, and so remembered after it if nobody interferes. With a tool that answers, a call returns if
what is remembered after it leads nowhere like that; and where all wildcards on the way are expanded,
what is remembered before it decides. -/
theorem resolveWithReport_labelled (reached : w.snapshot.Reachable tool)
    (labelled : tool.Labelled) :
    (∀ wildcard members, w.cache.wildcards.get? wildcard = some members →
      tool.BringsFor [] w.invocations wildcard members ∧
      ∀ member ∈ members, ∃ label, Label.parse member = .ok label) ∧
    ∀ (monitor : Monitor σ) (origin : Origin) (targets : List String),
      (∀ target ∈ targets, ∃ label, Label.parse target = .ok label) →
      let call := resolveWithReport tool monitor origin targets w
      ((∀ f, tool.Fails f ∨ monitor.Fails f → f.isInvalid = false ∧ f.isStructural = false) →
        ∀ f w', call = .error f w' →
          (monitor.UsesCache tool → f.isInvalid = false ∧ (f.isStructural = true →
            (w.snapshot.expansionsUntil tool w'.snapshot).Circles targets f)) ∧
          (monitor.Passive → f.isInvalid = false ∧ (f.isStructural = true →
            w'.cache.expansions.Circles targets f))) ∧
      ((∀ f, ¬tool.Fails f) → monitor.Patient →
        ((∀ target ∈ targets,
          (stateAfter call).cache.expansions.Settles (canonicalLabel target)) →
            ∃ report w', call = .ok report w') ∧
        ((∀ target ∈ targets, w.cache.expansions.Settles (canonicalLabel target) ∧
          ∀ other, ReflTransGen w.cache.expansions.Leads (canonicalLabel target) other →
            w.cache.wildcards.contains other = true) →
              ∃ report w', call = .ok report w')) := by
  have expanded : w.cache.Expanded tool := reached.expanded
  refine ⟨?_, fun monitor origin targets read => ⟨?_, ?_⟩⟩
  · intro wildcard members remembered
    refine ⟨?_, expanded.readable labelled wildcard members remembered⟩
    rcases reached.continues.expansions wildcard members remembered with none | brought
    · cases none
    · exact brought
  · intro plain f w' failed
    constructor
    -- One who uses the cache may have it forget, so what was brought in between counts as well.
    · intro uses
      refine circles_of_error ?_ ?_ read plain failed
      · intro wildcard members stands
        rcases stands with before | brought
        · exact expanded.readable labelled wildcard members before
        · exact brought.expands.read labelled
      · intro v d started last
        exact last ▸ covers_until uses started
    -- If nobody forgets anything, all that led round is still remembered in the end.
    · intro passive
      have kept : Action.Keeps (fun w => w.cache.Expanded tool)
          (resolveWithReport tool monitor origin targets) :=
        resolveWithReport_keep (fun _ _ effect => effect.expanded)
          (passive.keeps fun cache => cache.Expanded tool) targets
      refine circles_of_error ((kept.error failed expanded).readable labelled) ?_ read plain failed
      intro v d _ last
      exact last ▸ covers_passive passive _ d
  · intro answers patient
    refine ⟨resolveWithReport_returns labelled answers patient expanded read, fun settles => ?_⟩
    refine resolveWithReport_returns labelled answers patient expanded read fun target among => ?_
    obtain ⟨straight, known⟩ := settles target among
    exact settles_after patient straight known

end Cache

/-- Bare records of the targets that a table lists beside one. -/
def Tool.listed (table : List (String × List String)) (target : String) : Records :=
  Records.ofInfos (((valueAt? target table).getD []).map fun label => ⟨label, [], [], [], "", ""⟩)

/-- A tool that brings the records of a table. -/
def Tool.listing (table : List (String × List String)) : Tool := fun _ target =>
  ⟨[], .ok (listed table target)⟩

/-- The targets are resolved once. -/
def Usage.resolving (targets : List String) : Usage :=
  .resolve default targets (fun _ => .done false) (fun _ => .done false) (.done false)
    fun _ => .done true

theorem Tool.mem_listed {table : List (String × List String)} {target : String}
    {info : PackageInfo} (member : info ∈ (listed table target).values) :
    ∃ e ∈ table, info.label ∈ e.2 := by
  obtain ⟨_, pair⟩ := OrderedMap.mem_values_ofList member
  obtain ⟨made, inside, same⟩ := List.mem_map.1 pair
  obtain ⟨label, listed, rfl⟩ := List.mem_map.1 inside
  cases same
  cases row : valueAt? target table with
  | none =>
    rw [row] at listed
    cases listed
  | some targets =>
    rw [row] at listed
    exact ⟨_, OrderedMap.mem_of_valueAt? row, listed⟩

theorem Tool.listing_labelled {table : List (String × List String)}
    (labels : ∀ e ∈ table, ∀ target ∈ e.2, (Label.parse target).toBool = true) :
    (listing table).Labelled := by
  intro earlier target records answered info member
  cases answered
  obtain ⟨e, among, listed⟩ := Tool.mem_listed member
  exact Label.exists_of_toBool (labels e among info.label listed)

/-- Two wildcards that lead to each other, and a third one. -/
theorem Cache.resolveWithReport_labelled_sample :
    let table := [("//a:*", ["//a", "//a:all"]), ("//a:all", ["//a:*"]), ("//b:*", ["//b:c"])]
    let tool := Tool.listing table
    let w := (Usage.resolving ["//a:*", "//a:all", "//b:*"]).ending tool
    (∃ f w', resolveWithReport tool .silent default ["//a:*"] w = .error f w' ∧
      f.isInvalid = false ∧
      (w.snapshot.expansionsUntil tool w'.snapshot).Circles ["//a:*"] f ∧
      w'.cache.expansions.Circles ["//a:*"] f) ∧
    ∃ report w', resolveWithReport tool .silent default ["//b:*"] w = .ok report w' := by
  intro table tool w
  have labelled : tool.Labelled := Tool.listing_labelled (by decide +kernel)
  have answers : ∀ f, ¬tool.Fails f := by
    rintro f ⟨_, _, said⟩
    cases said
  have patient : (Monitor.silent : Monitor (List Snapshot)).Patient := Monitor.silent_patient
  have plain : ∀ f, tool.Fails f ∨ (Monitor.silent : Monitor (List Snapshot)).Fails f →
      f.isInvalid = false ∧ f.isStructural = false := by
    rintro f (failed | failed)
    · exact absurd failed (answers f)
    · exact absurd failed (patient.not_fails f)
  have law := (resolveWithReport_labelled (Usage.ending_reachable tool
    (.resolving ["//a:*", "//a:all", "//b:*"])) labelled).2 .silent default
  have read (target : String) (reads : (Label.parse target).toBool = true) :
      ∀ other ∈ [target], ∃ label, Label.parse other = .ok label := by
    intro other member
    rw [List.mem_singleton.1 member]
    exact Label.exists_of_toBool reads
  constructor
  · obtain ⟨f, w', failed⟩ := eq_error_of_answer?
      (r := resolveWithReport tool .silent default ["//a:*"] w) (by decide +kernel)
    have structural : (failure? (resolveWithReport tool .silent default ["//a:*"] w)).any
        Failure.isStructural = true := by decide +kernel
    rw [failed] at structural
    obtain ⟨shared, passive⟩ :=
      (law ["//a:*"] (read "//a:*" (by decide +kernel))).1 plain f w' failed
    obtain ⟨valid, circles⟩ := shared (Monitor.silent_usesCache tool)
    exact ⟨f, w', failed, valid, circles structural, (passive patient.toPassive).2 structural⟩
  · refine ((law ["//b:*"] (read "//b:*" (by decide +kernel))).2 answers patient).2 ?_
    have members : w.cache.wildcards.get? "//b:*" = some ["//b:c"] := by decide +kernel
    have single : Label.parse "//b:c" = .ok ⟨"", "b", some "c"⟩ := by decide +kernel
    have still : ∀ other, ¬w.cache.expansions.Leads "//b:*" other := by
      rintro other ⟨_, remembered, among, label, inside, wild⟩
      rw [Cache.expansions, members] at remembered
      cases remembered
      rw [List.mem_singleton.1 among, single] at inside
      cases inside
      revert wild
      decide +kernel
    have spelled : canonicalLabel "//b:*" = "//b:*" := by decide +kernel
    intro target member
    rw [List.mem_singleton.1 member, spelled]
    refine ⟨Expansions.settles_of_not_leads still, fun other led => ?_⟩
    rcases led.cases_head with same | ⟨next, first, _⟩
    · rw [← same, OrderedMap.contains_iff]
      exact ⟨_, members⟩
    · exact absurd first (still next)

/-- A record of the wildcard itself, and one whose label is none, are remembered as they are; the
next call for the wildcard comes upon them. -/
theorem Cache.resolveWithReport_refuses_remembered :
    let tool := Tool.listing [("//a:*", ["//a:*"]), ("//b:*", ["b"])]
    let w := (Usage.resolving ["//a:*", "//b:*"]).ending tool
    w.snapshot.Reachable tool ∧ w.cache.wildcards.get? "//a:*" = some ["//a:*"] ∧
      w.cache.wildcards.get? "//b:*" = some ["b"] ∧
      (failure? (resolveWithReport tool .silent default ["//a:*"] w)).map Failure.isStructural =
        some true ∧
      (failure? (resolveWithReport tool .silent default ["//b:*"] w)).map Failure.isInvalid =
        some true := by
  refine ⟨Usage.ending_reachable _ _, ?_, ?_, ?_, ?_⟩ <;> decide +kernel

end WorkspaceImport
