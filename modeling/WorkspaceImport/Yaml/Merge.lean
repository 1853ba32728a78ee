import WorkspaceImport.Yaml.Graph
import WorkspaceImport.Yaml.Cursor
/-!
Mappings that take over the entries of others. A mapping asks for it by a key of its own, which is
removed; the entries of the others are put before its own ones, so that its own ones count most. Every
step removes an entry that asks for merging, and none is ever added, also where a mapping asks for its
own entries.
-/
namespace WorkspaceImport.Yaml

abbrev Change := StateT Graph (Except Fault)

namespace Graph

def asksForMerge (g : Graph) (e : NodeEntry) : Bool :=
  g.kind e.1 = .merge

def mergeCount (g : Graph) : Nat :=
  g.nodes.foldl (fun n node =>
    match node.content with
    | .mapping entries => n + entries.countP g.asksForMerge
    | _ => n) 0

def settleDefaults (g : Graph) (id : NodeId) : Graph :=
  let keys := (g.entries id).filter fun e => g.kind e.1 = .default
  keys.foldl (fun g e => g.setKind e.1 .text) g

def takeMerge? (g : Graph) (id : NodeId) : Option (NodeId × Graph) :=
  let entries := g.entries id
  let before := entries.takeWhile fun e => !g.asksForMerge e
  match entries.drop before.length with
  | [] => none
  | (_, whose) :: after => some (whose, g.setContent id (.mapping (before ++ after)))

def putBefore (g : Graph) (id : NodeId) (taken : List NodeEntry) : Graph :=
  if taken.isEmpty then g else g.setContent id (.mapping (taken ++ g.entries id))

end Graph

mutual

def flatten : Nat → NodeId → Change Unit
  | 0, _ => throw .malformed
  | fuel + 1, id => do
    let taken ← takenEntries [] fuel id
    modify fun g => (g.settleDefaults id).putBefore id taken

def takenEntries (done : List NodeEntry) : Nat → NodeId → Change (List NodeEntry)
  | 0, _ => throw .malformed
  | fuel + 1, id => do
    match (← get).takeMerge? id with
    | none => pure done
    | some (whose, g) =>
      set g
      let found ← entriesFrom fuel whose
      takenEntries (done ++ found) fuel id

def entriesFrom : Nat → NodeId → Change (List NodeEntry)
  | 0, _ => throw .malformed
  | fuel + 1, id => do
    match (← get).content id with
    | .mapping _ =>
      flatten fuel id
      return (← get).entries id
    | .sequence items =>
      let parts ← items.mapM fun item => mappingEntries fuel item
      pure parts.reverse.flatten
    | .scalar _ => throw .malformed

def mappingEntries : Nat → NodeId → Change (List NodeEntry)
  | 0, _ => throw .malformed
  | fuel + 1, id => do
    match (← get).content id with
    | .mapping _ =>
      flatten fuel id
      return (← get).entries id
    | _ => throw .malformed

end

def Graph.mergeFuel (g : Graph) : Nat :=
  4 * g.mergeCount + 4

end WorkspaceImport.Yaml
