import WorkspaceImport.Yaml.Merge
import WorkspaceImport.Yaml.Number
/-!
The values of the nodes of a graph. A scalar has its value at once. A collection is made empty, and its
members are made when its turn comes, in the order in which the collections were met; so a collection
may be a member of itself, and of two faults the one nearer to the root is found first.
-/
namespace WorkspaceImport.Yaml

/-- What a node was made into. Members of collections are known by their nodes; keys are scalars. -/
inductive Made where
  | scalar (v : Value)
  | list (items : List NodeId)
  | pairs (items : List NodeEntry)
  | set (members : List Value)
  | map (entries : List (Value × NodeId))
  deriving Inhabited

/-- The graph, what was made of its nodes so far, and the collections whose members are still to be
made, newest first. -/
structure Building where
  graph : Graph
  made : Array (Option Made)
  waiting : List NodeId

abbrev Build := StateT Building (Except Fault)

def scalarText (g : Graph) : Nat → NodeId → Except Fault String
  | 0, _ => .error .endless
  | fuel + 1, id =>
    match g.content id with
    | .scalar text => .ok text
    | .sequence _ => .error .malformed
    | .mapping entries =>
      match entries.find? fun e => g.kind e.1 = .default with
      | some (_, value) => scalarText g fuel value
      | none => .error .malformed

def readBool (s : String) : Except Fault Bool :=
  let lower := Text.lower s.toList
  if Kind.trueWords.any fun w => w.toList = lower then .ok true
  else if Kind.falseWords.any fun w => w.toList = lower then .ok false
  else .error .badWord

def readMomentOf (g : Graph) (id : NodeId) : Except Fault Moment :=
  match g.content id with
  | .scalar text => readMoment text
  | _ => .error .wrongKind

def scalarValue (g : Graph) (id : NodeId) (kind : Kind) : Except Fault Value := do
  let text := scalarText g (g.size + 1) id
  match kind with
  | .text => return .text (← text)
  | .null =>
    let _ ← text
    return .null
  | .bool => return .bool (← readBool (← text))
  | .int => return .int (← readInt (← text))
  | .float => return .float (← readFloat (← text))
  | .binary => return .bytes (← readBytes (← text))
  | .moment =>
    let _ ← text
    return .moment (← readMomentOf g id)
  | _ => throw .malformed

def emptyCollection? : Kind → Option Made
  | .sequence => some (.list [])
  | .mapping => some (.map [])
  | .pairs => some (.pairs [])
  | .set => some (.set [])
  | _ => none

namespace Build

def keep (id : NodeId) (m : Made) : Build Unit :=
  modify fun b => { b with made := b.made.set! id.value (some m) }

def change {α : Type} (c : Change α) : Build α := fun b => do
  let graph := b.graph
  let b := { b with graph := .empty }
  let (a, graph) ← c.run graph
  pure (a, { b with graph := graph })

def make (id : NodeId) : Build Made := do
  let b ← get
  match b.made[id.value]?.getD none with
  | some m => pure m
  | none =>
    let kind := b.graph.kind id
    match emptyCollection? kind with
    | some m =>
      modify fun b => { b with waiting := id :: b.waiting }
      keep id m
      pure m
    | none =>
      let v ← scalarValue b.graph id kind
      keep id (.scalar v)
      pure (.scalar v)

def makeKey (id : NodeId) : Build Value := do
  match ← make id with
  | .scalar v => pure v
  | _ => throw .malformed

/-- The entries of a mapping with what it takes over from others. Of equal keys the last one counts. -/
def makeEntries (mergeFuel : Nat) (id : NodeId) : Build (List (Value × NodeId)) := do
  match (← get).graph.content id with
  | .mapping _ =>
    change (flatten mergeFuel id)
    ((← get).graph.entries id).foldlM (fun done e => do
      let key ← makeKey e.1
      let _ ← make e.2
      pure (Value.putEntry key e.2 done)) []
  | _ => throw .malformed

def makePair (id : NodeId) : Build NodeEntry := do
  match (← get).graph.content id with
  | .mapping [(k, v)] =>
    let _ ← make k
    let _ ← make v
    pure (k, v)
  | _ => throw .malformed

def fill (mergeFuel : Nat) (id : NodeId) : Build Unit := do
  let node := (← get).graph.node id
  match node.kind, node.content with
  | .sequence, .sequence items =>
    items.forM fun item => do
      let _ ← make item
    keep id (.list items)
  | .pairs, .sequence items => keep id (.pairs (← items.mapM makePair))
  | .mapping, _ => keep id (.map (← makeEntries mergeFuel id))
  | .set, _ => keep id (.set ((← makeEntries mergeFuel id).map (·.1)))
  | _, _ => throw .malformed

def fillAll (mergeFuel : Nat) : Nat → Build Unit
  | 0 => pure ()
  | fuel + 1 => do
    let round := (← get).waiting.reverse
    if !round.isEmpty then
      modify fun b => { b with waiting := [] }
      round.forM (fill mergeFuel)
      fillAll mergeFuel fuel

end Build

def Graph.made (g : Graph) (root : NodeId) : Except Fault (Array (Option Made)) := do
  let steps : Build Unit := do
    let _ ← Build.make root
    Build.fillAll g.mergeFuel (g.size + 1)
  let ((), b) ← steps.run ⟨g, Array.replicate g.size none, []⟩
  pure b.made

end WorkspaceImport.Yaml
