import WorkspaceImport.Import
/-!
Scripts for somebody who watches an operation: what to do at which event, and how many questions
whether to stop are answered with no. What was seen is recorded with the answers that were got.
-/
namespace WorkspaceImport

inductive Inquiry where
  | flush
  | flushFor (targets : List String)
  | state
  | query (targets : List String)
  | resolve (targets : List String)

structure TargetStatus where
  isCached : Bool
  hasLastGood : Bool
  expansion : Option (List String)
  deriving DecidableEq

def Cache.status (c : Cache) (target : String) : TargetStatus :=
  ⟨c.isCached target, c.hasLastGood target, c.expansion? target⟩

inductive Answer where
  | nothing
  | state (c : Cache)
  | statuses (all : List TargetStatus)
  | records (infos : Records)

inductive Progressed where
  | subTask (text : String)
  | worked (units : Nat)
  deriving DecidableEq

/-- An event as it was seen: whether an import was in progress, and the answers to what was asked. -/
structure Seen where
  what : Progressed
  importing : Bool
  answers : List Answer

/-- Events newest first, and how often it was asked whether to stop. -/
structure Recording where
  events : List Seen
  asked : Nat

def Recording.empty : Recording := ⟨[], 0⟩

instance : Inhabited Recording := ⟨.empty⟩

/-- The inquiries at the events of their numbers, and the number of questions that are answered with
no, if there is an end to them. -/
structure Script where
  inquiries : List (Nat × Inquiry)
  patience : Option Nat

def Script.idle : Script := ⟨[], none⟩

abbrev Watched := Importing Recording

namespace Script

def record (f : Recording → Recording) : Action Watched Unit :=
  modify fun w => { w with client := { w.client with client := f w.client.client } }

def ask (tool : Tool) : Inquiry → Action Watched Answer
  | .flush => do
    Cache.flushAll
    pure .nothing
  | .flushFor targets => do
    Cache.flushFor targets
    pure .nothing
  | .state => do
    return .state (← get).cache
  | .query targets => do
    return .statuses (targets.map (← get).cache.status)
  | .resolve targets => do
    return .records (← Cache.resolve tool .silent ⟨"", ""⟩ targets)

def addAnswer (number : Nat) (a : Answer) (r : Recording) : Recording :=
  { r with events := r.events.modify (r.events.length - 1 - number) fun e =>
      { e with answers := e.answers ++ [a] } }

def see (script : Script) (tool : Tool) (what : Progressed) : Action Watched Unit := do
  let w ← get
  let number := w.client.client.events.length
  record fun r => { r with events := ⟨what, w.client.inProgress, []⟩ :: r.events }
  script.inquiries.forM fun inquiry =>
    if inquiry.1 = number then do
      let answer ← ask tool inquiry.2
      record (addAnswer number answer)
    else pure ()

def monitor (script : Script) (tool : Tool) : Monitor Watched where
  subTask text := see script tool (.subTask text)
  worked units := see script tool (.worked units)
  isCanceled := do
    let asked := (← get).client.client.asked
    record fun r => { r with asked := r.asked + 1 }
    pure (script.patience.any fun n => n ≤ asked)

end Script

end WorkspaceImport
