import WorkspaceImport.Proofs.Cache.Answers
import WorkspaceImport.Proofs.Cache.Expansion
/-!
A cache that nobody can see. If the tool gives the same answer whenever it is asked for a target,
and its answers agree with each other, then a call finds what the tool says, whatever was resolved,
flushed or dropped before: records are kept, recomputed one by one or taken from older runs, and
they are the same.
-/
namespace WorkspaceImport

namespace Tool

/-- What the answer for a target holds, by canonical labels. -/
def found (answer : String → Records) (target : String) : Records :=
  Records.canonical (answer target).values

/-- A tool that always answers, and always alike. Two answers agree on the targets of both, what is
brought for some target is brought for itself too, and none of it is a wildcard. -/
structure Steady (tool : Tool) (answer : String → Records) : Prop where
  answers : ∀ earlier target, (tool earlier target).outcome = .ok (answer target)
  consistent : ∀ target other key info info', (found answer target).get? key = some info →
    (found answer other).get? key = some info' → info = info'
  closed : ∀ target key, (found answer target).contains key = true →
    (found answer key).contains key = true
  single : ∀ target, ∀ info ∈ (answer target).values,
    ∃ label, Label.parse info.label = .ok label ∧ label.canonical.isWildcard = false

namespace Steady

variable {tool : Tool} {answer : String → Records} {target wildcard key : String}
  {info : PackageInfo} {targets : List String}

theorem not_fails (steady : tool.Steady answer) (f : Failure) : ¬tool.Fails f := by
  rintro ⟨earlier, target, failed⟩
  rw [steady.answers] at failed
  cases failed

theorem labelled (steady : tool.Steady answer) : tool.Labelled := by
  intro earlier target records answered info member
  rw [steady.answers] at answered
  cases answered
  obtain ⟨label, read, _⟩ := steady.single target info member
  exact ⟨label, read⟩

theorem read (steady : tool.Steady answer) (brought : (found answer target).contains key = true) :
    ∃ label, Label.parse key = .ok label ∧ label.isWildcard = false := by
  obtain ⟨info, present⟩ := OrderedMap.contains_iff.1 brought
  obtain ⟨among, own⟩ := Records.mem_of_get?_canonical present
  obtain ⟨label, inside, single⟩ := steady.single target info among
  exact ⟨label.canonical, own ▸ parse_canonicalLabel inside, single⟩

theorem expands (steady : tool.Steady answer) (brought : tool.Expands wildcard targets) :
    targets = (found answer wildcard).keys := by
  obtain ⟨earlier, records, answered, rfl⟩ := brought
  rw [steady.answers] at answered
  cases answered
  rfl

theorem settles (steady : tool.Steady answer) {cache : Cache} (expanded : cache.Expanded tool)
    (start : String) : cache.expansions.Settles start := by
  apply Expansions.settles_of_not_leads
  rintro other ⟨targets, remembered, among, label, read, wild⟩
  rw [steady.expands (expanded start targets remembered)] at among
  obtain ⟨label', again, single⟩ := steady.read (OrderedMap.contains_iff_mem_keys.2 among)
  rw [read] at again
  cases again
  rw [wild] at single
  cases single

theorem own (steady : tool.Steady answer) (brought : (found answer target).get? key = some info) :
    (found answer key).get? key = some info := by
  have inside : (found answer target).contains key = true :=
    OrderedMap.contains_iff.2 ⟨info, brought⟩
  obtain ⟨info', present⟩ := OrderedMap.contains_iff.1 (steady.closed target key inside)
  rw [present, steady.consistent target key key info info' brought present]

end Steady

end Tool

def Cache.Truthful (answer : String → Records) (cache : Cache) : Prop :=
  ∀ target info, cache.lastGood.get? target = some info →
    (Tool.found answer target).get? target = some info

theorem Effect.truthful {σ : Type} {tool : Tool} {answer : String → Records} {v w : World σ}
    (steady : tool.Steady answer) (effect : Effect tool v w)
    (earlier : v.cache.Truthful answer) : w.cache.Truthful answer := by
  cases effect with
  | idle _ => exact earlier
  | hit _ _ => exact earlier
  | refused origin _ =>
    rw [World.ask_cache]
    exact earlier
  | learned origin answered =>
    rw [steady.answers] at answered
    cases answered
    rw [World.learn_cache]
    intro key info known
    simp only [OrderedMap.get?_update, Option.or_eq_some_iff] at known
    rcases known with new | ⟨_, old⟩
    · exact steady.own new
    · exact earlier key info old
  | remembered _ _ _ => exact earlier
  | flushed => exact earlier
  | dropped _ => exact earlier

theorem Snapshot.Reachable.truthful {tool : Tool} {answer : String → Records} {s : Snapshot}
    (reached : s.Reachable tool) (steady : tool.Steady answer) : s.cache.Truthful answer :=
  reached.keep (I := fun s => s.cache.Truthful answer) (fun _ _ known => by cases known)
    fun _ _ effect => effect.truthful steady

namespace Resolve

variable {σ : Type} {tool : Tool} {answer : String → Records} {monitor : Monitor σ}
  {origin : Origin} {c d : Call σ}

theorem literal_contains (steady : tool.Steady answer) {target : String}
    (brought : (Tool.found answer target).contains target = true)
    (returned : literal tool monitor origin target c = .ok () d) :
    d.report.infos.contains target = true := by
  cases cached : c.world.cache.current.get? target with
  | some info =>
    rw [literal_hit tool monitor origin cached] at returned
    rw [report_reportWork returned]
    simp [Call.hit, Report.addHit]
  | none =>
    have answered := steady.answers c.world.invocations target
    rw [literal_answered tool monitor origin cached answered] at returned
    have inside : (Records.canonical (answer target).values).contains target = true := brought
    rw [report_reportWork returned, Call.answerLiteral, if_pos inside]
    exact contains_learn_infos tool origin c target (OrderedMap.contains_iff_mem_keys.1 brought)

/-- Of a wildcard everything is found that the tool brings for it, also where an older run has told
what it stands for. -/
theorem wildcard_contains (steady : tool.Steady answer) {depth : Nat} {target : String}
    {label : Label} (read : Label.parse target = .ok label)
    (expanded : c.world.cache.Expanded tool)
    (returned : wildcard tool monitor origin (depth + 1) [] target c = .ok () d) :
    ∀ key ∈ (Tool.found answer target).keys, d.report.infos.contains key = true := by
  have fresh : ([] : List String).contains target = false := rfl
  cases known : c.world.cache.wildcards.get? target with
  | none =>
    have answered := steady.answers c.world.invocations target
    rw [wildcard_answered tool monitor origin depth fresh read known answered] at returned
    intro key member
    have some : ¬(Records.canonical (answer target).values).isEmpty = true := by
      intro none
      rw [Tool.found, OrderedMap.isEmpty_iff.1 none] at member
      cases member
    rw [report_reportWork returned, Call.answerWildcard, if_neg some]
    exact contains_learn_infos tool origin c target member
  | some expansion =>
    rw [wildcard_remembered tool monitor origin depth fresh known] at returned
    rw [← steady.expands (expanded target expansion known)]
    apply Call.Chain.forM_all (R := Move tool monitor origin) (I := fun _ => True)
      (P := fun key d => d.report.infos.contains key = true)
      (fun sub c => (member_turns tool monitor origin (wildcard_turns tool monitor origin depth
        [target]) sub c).moves)
      (fun _ _ _ held => held) (fun _ _ _ move => move.contains) _ trivial returned
    intro key among c d _ run
    rw [steady.expands (expanded target expansion known)] at among
    have brought := OrderedMap.contains_iff_mem_keys.2 among
    obtain ⟨inner, inside, single⟩ := steady.read brought
    simp only [member, inside, single, Bool.false_eq_true, if_false] at run
    exact literal_contains steady (steady.closed target key brought) run

/-- A report has what the tool brings for a target: the target itself, or what a wildcard stands
for. -/
def Found (answer : String → Records) (target : String) (r : Report) : Prop :=
  ∀ label, Label.parse target = .ok label →
    let brought := Tool.found answer (canonicalLabel target)
    (label.isWildcard = false → brought.contains (canonicalLabel target) = true →
      r.infos.contains (canonicalLabel target) = true) ∧
    (label.isWildcard = true → ∀ key ∈ brought.keys, r.infos.contains key = true)

theorem request_found (steady : tool.Steady answer)
    (watched : monitor.Keeps fun w => w.cache.Expanded tool) {target : String}
    (expanded : c.world.cache.Expanded tool)
    (returned : request tool monitor origin target c = .ok () d) :
    Found answer target d.report := by
  intro label read
  have spelled : canonicalLabel target = label.canonical.text := by
    rw [canonicalLabel, read]
  rw [request_eq] at returned
  split at returned
  next => cases returned
  next => cases returned
  next w asked =>
    have kept := watched.isCanceled.ok asked expanded
    simp only [read] at returned
    rw [spelled]
    constructor
    · intro single brought
      rw [single, if_neg Bool.false_ne_true] at returned
      exact literal_contains steady brought returned
    · intro wild
      rw [if_pos wild] at returned
      exact wildcard_contains steady (Label.parse_canonical read) kept returned

theorem requests_found (steady : tool.Steady answer)
    (watched : monitor.Keeps fun w => w.cache.Expanded tool) {targets : List String}
    (expanded : c.world.cache.Expanded tool)
    (returned : requests tool monitor origin targets c = .ok () d) :
    ∀ target ∈ targets, Found answer target d.report := by
  apply Call.Chain.forM_all (R := Move tool monitor origin)
    (I := fun c => c.world.cache.Expanded tool) (P := fun target c => Found answer target c.report)
    (fun target c => (request_turns tool monitor origin target c).moves) _ _ _ expanded returned
  · intro c d move held
    exact move.keep (J := fun w => w.cache.Expanded tool) (fun _ _ effect => effect.expanded)
      watched held
  · intro target c d move found label read
    obtain ⟨single, wild⟩ := found label read
    exact ⟨fun plain brought => move.contains (single plain brought),
      fun star key member => move.contains (wild star key member)⟩
  · intro target _ c d held run
    exact request_found steady watched held run

end Resolve

namespace Cache

variable {σ : Type} {tool : Tool} {answer : String → Records} {monitor : Monitor σ}
  {origin : Origin} {targets : List String} {w : World σ}

theorem resolveWithReport_steady (origin : Origin) (steady : tool.Steady answer)
    (reached : w.snapshot.Reachable tool) (patient : monitor.Patient)
    (read : ∀ target ∈ targets, ∃ label, Label.parse target = .ok label) :
    ∃ report w', resolveWithReport tool monitor origin targets w = .ok report w' ∧
      ∀ target ∈ targets, ∀ label, Label.parse target = .ok label →
        let brought := Tool.found answer (canonicalLabel target)
        (label.isWildcard = false → report.infos.get? (canonicalLabel target) =
          brought.get? (canonicalLabel target)) ∧
        (label.isWildcard = true → ∀ key info, brought.get? key = some info →
          report.infos.get? key = some info) := by
  have expanded : w.cache.Expanded tool := reached.expanded
  have watched : monitor.Keeps fun w => w.cache.Expanded tool := patient.keeps _
  have still : Action.Keeps (fun w => w.cache.Expanded tool)
      (resolveWithReport tool monitor origin targets) :=
    resolveWithReport_keep (fun _ _ effect => effect.expanded) watched targets
  have returns : ∃ report w', resolveWithReport tool monitor origin targets w = .ok report w' :=
    resolveWithReport_returns steady.labelled steady.not_fails patient expanded read
      fun target _ => steady.settles (still w expanded) (canonicalLabel target)
  obtain ⟨report, w', returned⟩ := returns
  refine ⟨report, w', returned, ?_⟩
  have truthful : w'.cache.Truthful answer := by
    have kept : Action.Keeps (fun w => w.cache.Truthful answer)
        (resolveWithReport tool monitor origin targets) :=
      resolveWithReport_keep (fun _ _ effect => effect.truthful steady) (patient.keeps _) targets
    exact kept.ok returned (reached.truthful steady)
  -- whatever the report holds was known at the end, and so it is what the tool says
  have honest : ∀ key info, report.infos.get? key = some info →
      (Tool.found answer key).get? key = some info := fun key info present =>
    truthful key info
      ((resolveWithReport_settled reached.sound patient.spares returned).found key info present)
  have all : ∀ target ∈ targets, Resolve.Found answer target report := by
    obtain ⟨v, c, u, started, run, _, rfl, _⟩ := resolveWithReport_ok returned
    exact Resolve.requests_found steady watched
      ((watched.subTask resolveTask).ok started expanded) run
  intro target member label parsed
  obtain ⟨single, wild⟩ := all target member label parsed
  constructor
  · intro plain
    cases brought : (Tool.found answer (canonicalLabel target)).get? (canonicalLabel target) with
    | none =>
      cases present : report.infos.get? (canonicalLabel target) with
      | none => rfl
      | some info =>
        rw [honest _ info present] at brought
        cases brought
    | some info =>
      obtain ⟨info', present⟩ := OrderedMap.contains_iff.1
        (single plain (OrderedMap.contains_iff.2 ⟨info, brought⟩))
      rw [present, ← honest _ info' present, brought]
  · intro star key info brought
    have member := OrderedMap.contains_iff_mem_keys.1 (OrderedMap.contains_iff.2 ⟨info, brought⟩)
    obtain ⟨info', present⟩ := OrderedMap.contains_iff.1 (wild star key member)
    rw [present, ← honest _ info' present, steady.own brought]

/-- Two calls for the same labels agree, one from any session that can be reached, and one from a
new session: both return, both have the record that the tool brings of a target that stands for
itself, or none if it brings none, and both have the records of all that it brings for a wildcard. -/
theorem resolveWithReport_transparent (origin : Origin) (client : σ) (steady : tool.Steady answer)
    (reached : w.snapshot.Reachable tool) (patient : monitor.Patient)
    (read : ∀ target ∈ targets, ∃ label, Label.parse target = .ok label) :
    ∃ report w' fresh v,
      resolveWithReport tool monitor origin targets w = .ok report w' ∧
      resolveWithReport tool monitor origin targets ⟨.empty, [], client⟩ = .ok fresh v ∧
      ∀ target ∈ targets, ∀ label, Label.parse target = .ok label →
        let brought := Tool.found answer (canonicalLabel target)
        (label.isWildcard = false →
          report.infos.get? (canonicalLabel target) = fresh.infos.get? (canonicalLabel target) ∧
          fresh.infos.get? (canonicalLabel target) = brought.get? (canonicalLabel target)) ∧
        (label.isWildcard = true → ∀ key info, brought.get? key = some info →
          report.infos.get? key = some info ∧ fresh.infos.get? key = some info) := by
  have begun : (⟨.empty, [], client⟩ : World σ).snapshot.Reachable tool :=
    Usage.ending_reachable tool (.done true)
  obtain ⟨report, w', returned, law⟩ := resolveWithReport_steady origin steady reached patient read
  obtain ⟨fresh, v, again, new⟩ := resolveWithReport_steady origin steady begun patient read
  refine ⟨report, w', fresh, v, returned, again, ?_⟩
  intro target member label parsed
  obtain ⟨single, wild⟩ := law target member label parsed
  obtain ⟨single', wild'⟩ := new target member label parsed
  constructor
  · intro plain
    exact ⟨(single plain).trans (single' plain).symm, single' plain⟩
  · intro star key info brought
    exact ⟨wild star key info brought, wild' star key info brought⟩

end Cache

/-- One target, which is brought for itself and for the wildcard of its package. -/
def Tool.soleTable : List (String × List String) :=
  [("//a:*", ["//a:x"]), ("//a:x", ["//a:x"])]

theorem Tool.listed_soleTable (target : String) :
    listed soleTable target = listed soleTable "//a:x" ∨ listed soleTable target = .empty := by
  by_cases star : "//a:*" = target
  · rw [← star]
    exact .inl rfl
  · by_cases own : "//a:x" = target
    · rw [← own]
      exact .inl rfl
    · right
      simp only [listed, soleTable, valueAt?, star, own, if_false]
      rfl

theorem Tool.soleTable_steady : (listing soleTable).Steady (listed soleTable) where
  answers _ _ := rfl
  consistent target other key info info' here there := by
    rw [found] at here there
    rcases listed_soleTable target with same | none
    · rcases listed_soleTable other with same' | none
      · rw [same] at here
        rw [same', here] at there
        exact Option.some.inj there
      · rw [none] at there
        cases there
    · rw [none] at here
      cases here
  closed target key inside := by
    have keys : (found (listed soleTable) "//a:x").keys = ["//a:x"] := by decide +kernel
    rw [found] at inside
    rcases listed_soleTable target with same | none
    · rw [same, OrderedMap.contains_iff_mem_keys] at inside
      rw [found] at keys
      rw [keys] at inside
      rw [List.mem_singleton.1 inside]
      decide +kernel
    · rw [none] at inside
      cases inside
  single target info member := by
    have one : (listed soleTable "//a:x").values = [⟨"//a:x", [], [], [], "", ""⟩] := by
      decide +kernel
    rcases listed_soleTable target with same | none
    · rw [same, one] at member
      rw [List.mem_singleton.1 member]
      exact ⟨⟨"", "a", some "x"⟩, by decide +kernel, by decide +kernel⟩
    · rw [none] at member
      cases member

/-- What the wildcard stands for is remembered, but its member was dropped. -/
theorem Cache.resolveWithReport_transparent_sample :
    let tool := Tool.listing Tool.soleTable
    let usage := Usage.resolve default ["//a:*"] (fun _ => .done false) (fun _ => .done false)
      (.done false) fun _ => .flushFor ["//a:x"] (.done true)
    let w := usage.ending tool
    w.cache.wildcards.get? "//a:*" = some ["//a:x"] ∧ w.cache.current.keys = [] ∧
      ∃ report fresh : Report, ∃ w' v : World (List Snapshot),
        resolveWithReport tool .silent default ["//a:*", "//a"] w = .ok report w' ∧
        resolveWithReport tool .silent default ["//a:*", "//a"] ⟨.empty, [], []⟩ = .ok fresh v ∧
        report.infos.get? "//a:x" = some ⟨"//a:x", [], [], [], "", ""⟩ ∧
        fresh.infos.get? "//a:x" = some ⟨"//a:x", [], [], [], "", ""⟩ := by
  intro tool usage w
  have read : ∀ target ∈ ["//a:*", "//a"], ∃ label, Label.parse target = .ok label := by
    have labels : ∀ target ∈ ["//a:*", "//a"], (Label.parse target).toBool = true := by
      decide +kernel
    exact fun target member => Label.exists_of_toBool (labels target member)
  obtain ⟨report, w', fresh, v, returned, again, law⟩ := resolveWithReport_transparent default []
    Tool.soleTable_steady (Usage.ending_reachable tool usage) Monitor.silent_patient read
  have wild := (law "//a:*" List.mem_cons_self ⟨"", "a", some "*"⟩ (by decide +kernel)).2
    (by decide +kernel) "//a:x" ⟨"//a:x", [], [], [], "", ""⟩ (by decide +kernel)
  exact ⟨by decide +kernel, by decide +kernel, report, fresh, w', v, returned, again, wild⟩

end WorkspaceImport
