import WorkspaceImport.Yaml.Building
import WorkspaceImport.Yaml.Document
/-!
Plain data from YAML documents. The value of a node is unfolded into a tree; where a node stands inside
itself, the tree ends and says so.
-/
namespace WorkspaceImport.Yaml

abbrev Unfolding := StateM (Array (Option Value))

namespace Unfolding

structure Unfolded where
  value : Value
  closed : Bool

mutual

def ofNode (made : Array (Option Made)) (path : List NodeId) : Nat → NodeId → Unfolding Unfolded
  | 0, _ => pure ⟨.null, true⟩
  | fuel + 1, id => do
    match (← get)[id.value]?.getD none with
    | some v => pure ⟨v, true⟩
    | none =>
      let m := (made[id.value]?.getD none).getD (.scalar .null)
      if path.contains id then
        pure ⟨.again (match m with | .map _ => true | _ => false), false⟩
      else
        let u ← ofMade made (id :: path) fuel m
        if u.closed then modify fun known => known.set! id.value (some u.value)
        pure u

def ofMade (made : Array (Option Made)) (path : List NodeId) : Nat → Made → Unfolding Unfolded
  | 0, _ => pure ⟨.null, true⟩
  | fuel + 1, m => do
    match m with
    | .scalar v => pure ⟨v, true⟩
    | .set members => pure ⟨.set members, true⟩
    | .list items =>
      let us ← items.mapM fun id => ofNode made path fuel id
      pure ⟨.list (us.map (·.value)), us.all (·.closed)⟩
    | .pairs items =>
      let us ← items.mapM fun e => do
        let k ← ofNode made path fuel e.1
        let v ← ofNode made path fuel e.2
        pure (Unfolded.mk (.pair k.value v.value) (k.closed && v.closed))
      pure ⟨.list (us.map (·.value)), us.all (·.closed)⟩
    | .map entries =>
      let us ← entries.mapM fun e => do
        let v ← ofNode made path fuel e.2
        pure (e.1, v)
      pure ⟨.map (us.map fun u => (u.1, u.2.value)), us.all (·.2.closed)⟩

end

def fuelFor (made : Array (Option Made)) : Nat :=
  2 * made.size + 2

def root (made : Array (Option Made)) (id : NodeId) : Unfolding Value := do
  match made[id.value]?.getD none with
  | some (.map entries) =>
    let us ← entries.mapM fun e => do
      let v ← ofNode made [] (fuelFor made) e.2
      pure (e.1, v.value)
    pure (.map us)
  | _ =>
    let u ← ofNode made [] (fuelFor made) id
    pure u.value

end Unfolding

def Document.value (d : Document) : Except Fault Value := do
  let made ← d.graph.made d.root
  pure ((Unfolding.root made d.root).run (Array.replicate made.size none)).run.1

def read (source : Source) : Except Fault Value := do
  match ← Document.ofTokens? (tokens source) with
  | none => pure .null
  | some d => d.value

end WorkspaceImport.Yaml
