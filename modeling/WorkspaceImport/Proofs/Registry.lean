import WorkspaceImport.Project
import WorkspaceImport.Proofs.OrderedMap
import Mathlib.Data.List.Nodup
/-!
Requests for projects, one after the other. A name belongs to the first project that is made under
it; whoever asks for it again gets that project. So the answers to several requests are different
projects exactly when the names are.
-/
namespace WorkspaceImport.Registry

def Named (projects : Registry) : Prop :=
  ∀ name project, projects.get? name = some project → project.name = name

/-- Requests that are served one after the other, beside the projects that are the answers. -/
inductive Serves : Registry → List Project.Request → List Project → Registry → Prop where
  | done (projects : Registry) : Serves projects [] [] projects
  | next {projects projects' projects'' : Registry} {request : Project.Request}
      {requests : List Project.Request} {answer : Project} {answers : List Project}
      (served : (projects.create request).outcome = .ok (answer, projects'))
      (rest : Serves projects' requests answers projects'') :
      Serves projects (request :: requests) (answer :: answers) projects''

section Create

variable {projects projects' : Registry} {request : Project.Request} {answer : Project}

theorem create_ok (served : (projects.create request).outcome = .ok (answer, projects')) :
    projects.get? request.name = some answer ∧ projects' = projects ∨
      projects.get? request.name = none ∧ answer = Project.ofRequest request ∧
        projects' = projects.insert request.name answer := by
  unfold create at served
  split at served
  next recorded found =>
    cases served
    exact .inl ⟨found, rfl⟩
  next absent =>
    split at served
    next => cases served
    next =>
      cases served
      exact .inr ⟨absent, rfl, rfl⟩

theorem create_error {f : Failure} (refused : (projects.create request).outcome = .error f) :
    ∃ path outside, f = .input (.sourcesOutside path outside) := by
  unfold create at refused
  split at refused
  next => cases refused
  next =>
    split at refused
    next =>
      cases refused
      exact ⟨_, _, rfl⟩
    next => cases refused

theorem Named.empty : Named OrderedMap.empty := by
  intro name project found
  cases found

theorem Named.create (named : projects.Named)
    (served : (projects.create request).outcome = .ok (answer, projects')) : projects'.Named := by
  rcases create_ok served with ⟨_, rfl⟩ | ⟨_, rfl, rfl⟩
  · exact named
  · intro name project found
    rw [OrderedMap.get?_insert] at found
    split at found
    next same =>
      rw [← Option.some.inj found]
      exact same
    next => exact named name project found

theorem get?_create (served : (projects.create request).outcome = .ok (answer, projects')) :
    projects'.get? request.name = some answer := by
  rcases create_ok served with ⟨found, rfl⟩ | ⟨_, rfl, rfl⟩
  · exact found
  · rw [OrderedMap.get?_insert, if_pos rfl]

theorem get?_create_of_some (served : (projects.create request).outcome = .ok (answer, projects'))
    {name : String} {project : Project} (found : projects.get? name = some project) :
    projects'.get? name = some project := by
  rcases create_ok served with ⟨_, rfl⟩ | ⟨absent, rfl, rfl⟩
  · exact found
  · rw [OrderedMap.get?_insert, if_neg, found]
    rintro rfl
    rw [absent] at found
    cases found

end Create

namespace Serves

variable {projects projects' : Registry} {requests : List Project.Request} {answers : List Project}

theorem get?_of_some (serves : Serves projects requests answers projects') {name : String}
    {project : Project} (found : projects.get? name = some project) :
    projects'.get? name = some project := by
  induction serves with
  | done => exact found
  | next served _ ih => exact ih (get?_create_of_some served found)

theorem map_name (serves : Serves projects requests answers projects') (named : projects.Named) :
    answers.map (·.name) = requests.map (·.name) := by
  induction serves with
  | done => rfl
  | next served _ ih =>
    have later := named.create served
    rw [List.map_cons, List.map_cons, ih later, later _ _ (get?_create served)]

theorem recorded (serves : Serves projects requests answers projects') (named : projects.Named) :
    ∀ answer ∈ answers, projects'.get? answer.name = some answer := by
  induction serves with
  | done => exact nofun
  | next served rest ih =>
    have later := named.create served
    intro project member
    rcases List.mem_cons.1 member with rfl | other
    · apply rest.get?_of_some
      rw [later _ _ (get?_create served)]
      exact get?_create served
    · exact ih later project other

theorem nodup_iff (serves : Serves projects requests answers projects') (named : projects.Named) :
    answers.Nodup ↔ (requests.map (·.name)).Nodup := by
  rw [← serves.map_name named]
  constructor
  · intro distinct
    apply distinct.map_on
    intro project member other member' same
    have found := serves.recorded named project member
    rw [same, serves.recorded named other member'] at found
    exact (Option.some.inj found).symm
  · exact List.Nodup.of_map _

theorem eq_map_ofRequest (serves : Serves projects requests answers projects')
    (distinct : (requests.map (·.name)).Nodup)
    (fresh : ∀ request ∈ requests, projects.get? request.name = none) :
    answers = requests.map Project.ofRequest := by
  induction serves with
  | done => rfl
  | @next projects _ _ request requests answer _ served _ ih =>
    rw [List.map_cons, List.nodup_cons] at distinct
    have absent := fresh request List.mem_cons_self
    rcases create_ok served with ⟨found, _⟩ | ⟨_, rfl, rfl⟩
    · rw [absent] at found
      cases found
    · rw [List.map_cons, ih distinct.2]
      intro other member
      rw [OrderedMap.get?_insert, if_neg, fresh other (List.mem_cons_of_mem request member)]
      intro same
      exact distinct.1 (same ▸ List.mem_map_of_mem member)

end Serves

end WorkspaceImport.Registry
