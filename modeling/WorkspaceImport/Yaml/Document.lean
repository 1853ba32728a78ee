import WorkspaceImport.Yaml.Graph
import WorkspaceImport.Yaml.Token
/-!
The graph of a YAML document. Every node gets its kind from its tag, or from its text if it is a plain
scalar. A collection has its place in the graph before its members are read, so that they can refer to
it. Tokens are looked at only when they are needed: what is wrong with the tokens so far is found
before what keeps further tokens from being there.
-/
namespace WorkspaceImport.Yaml

/-- What is left of the tokens, the handles of the document, the nodes of the anchors, and the graph so
far. -/
structure Reading where
  tokens : List Token
  fault : Option Fault
  handles : List (String × String)
  anchors : List (String × NodeId)
  graph : Graph

abbrev Read := StateT Reading (Except Fault)

namespace Read

def malformed {α : Type} : Read α :=
  throw .malformed

def peek : Read Token := do
  let r ← get
  match r.tokens, r.fault with
  | t :: _, _ => pure t
  | [], some fault => throw fault
  | [], none => pure .streamEnd

def advance : Read Unit :=
  modify fun r => { r with tokens := r.tokens.tail }

def addNode (kind : Kind) (content : Content) : Read NodeId :=
  modifyGet fun r => (r.graph.nextId, { r with graph := r.graph.add ⟨kind, content⟩ })

def addEmpty : Read NodeId :=
  addNode .null (.scalar "")

def setContent (id : NodeId) (content : Content) : Read Unit :=
  modify fun r => { r with graph := r.graph.setContent id content }

structure Properties where
  anchor : Option String
  tag : Option String

def fullTag (t : TagText) : Read String := do
  match t.handle with
  | none => pure t.suffix
  | some handle =>
    match (← get).handles.find? fun h => h.1 = handle with
    | some (_, namespaceText) => pure (namespaceText ++ t.suffix)
    | none => malformed

def anchor? : Read (Option String) := do
  match ← peek with
  | .anchor name =>
    advance
    pure (some name)
  | _ => pure none

def tag? : Read (Option TagText) := do
  match ← peek with
  | .tag t =>
    advance
    pure (some t)
  | _ => pure none

def properties : Read Properties := do
  let before ← anchor?
  let tag ← tag?
  let after ← if before.isNone && tag.isSome then anchor? else pure none
  let full ← tag.mapM fullTag
  pure ⟨before <|> after, full⟩

def Properties.kind? (p : Properties) : Option Kind :=
  (p.tag.filter (· ≠ "!")).map Kind.ofTag

def Properties.scalarKind (p : Properties) (isPlain : Bool) (text : String) : Kind :=
  p.kind?.getD (if isPlain || p.tag.isSome then Kind.ofText text else .text)

def checkAnchor (p : Properties) : Read Unit := do
  match p.anchor with
  | none => pure ()
  | some name =>
    if (← get).anchors.any fun a => a.1 = name then malformed

def anchored (p : Properties) (kind : Kind) (content : Content) : Read NodeId := do
  let id ← addNode kind content
  if let some name := p.anchor then
    modify fun r => { r with anchors := (name, id) :: r.anchors }
  pure id

def openSequence (p : Properties) : Read NodeId :=
  anchored p (p.kind?.getD .sequence) (.sequence [])

def openMapping (p : Properties) : Read NodeId :=
  anchored p (p.kind?.getD .mapping) (.mapping [])

def reference (name : String) : Read NodeId := do
  match (← get).anchors.find? fun a => a.1 = name with
  | some (_, id) => pure id
  | none => malformed

def endsEntry (ends : List Token) : Read Bool := do
  return ends.contains (← peek)

mutual

/-- A node. Inside block collections nodes may be blocks themselves, and the values of keys may be
sequences that are not indented. -/
def node (isBlock looseItems : Bool) : Nat → Read NodeId
  | 0 => malformed
  | fuel + 1 => do
    match ← peek with
    | .reference name =>
      advance
      reference name
    | _ =>
      let p ← properties
      let t ← peek
      match t with
      | .scalar text isPlain =>
        checkAnchor p
        advance
        anchored p (p.scalarKind isPlain text) (.scalar text)
      | .flowSequence =>
        checkAnchor p
        advance
        let id ← openSequence p
        flowItems id true [] fuel
      | .flowMapping =>
        checkAnchor p
        advance
        let id ← openMapping p
        flowEntries id true [] fuel
      | _ =>
        if looseItems && t = .blockItem then
          checkAnchor p
          let id ← openSequence p
          looseSequence id [] fuel
        else if isBlock && t = .blockSequence then
          checkAnchor p
          advance
          let id ← openSequence p
          blockItems id [] fuel
        else if isBlock && t = .blockMapping then
          checkAnchor p
          advance
          let id ← openMapping p
          blockEntries id [] fuel
        else if p.anchor.isSome || p.tag.isSome then
          checkAnchor p
          anchored p (p.scalarKind true "") (.scalar "")
        else malformed

def nodeUnless (ends : List Token) (isBlock looseItems : Bool) : Nat → Read NodeId
  | 0 => malformed
  | fuel + 1 => do
    if ← endsEntry ends then addEmpty else node isBlock looseItems fuel

def blockItems (id : NodeId) (done : List NodeId) : Nat → Read NodeId
  | 0 => malformed
  | fuel + 1 => do
    match ← peek with
    | .blockItem =>
      advance
      let n ← nodeUnless [.blockItem, .blockEnd] true false fuel
      blockItems id (n :: done) fuel
    | .blockEnd =>
      advance
      setContent id (.sequence done.reverse)
      pure id
    | _ => malformed

def looseSequence (id : NodeId) (done : List NodeId) : Nat → Read NodeId
  | 0 => malformed
  | fuel + 1 => do
    match ← peek with
    | .blockItem =>
      advance
      let n ← nodeUnless [.blockItem, .key, .value, .blockEnd] true false fuel
      looseSequence id (n :: done) fuel
    | _ =>
      setContent id (.sequence done.reverse)
      pure id

def blockEntries (id : NodeId) (done : List NodeEntry) : Nat → Read NodeId
  | 0 => malformed
  | fuel + 1 => do
    match ← peek with
    | .key =>
      advance
      let k ← nodeUnless [.key, .value, .blockEnd] true true fuel
      match ← peek with
      | .value =>
        advance
        let v ← nodeUnless [.key, .value, .blockEnd] true true fuel
        blockEntries id ((k, v) :: done) fuel
      | _ =>
        let v ← addEmpty
        blockEntries id ((k, v) :: done) fuel
    | .blockEnd =>
      advance
      setContent id (.mapping done.reverse)
      pure id
    | _ => malformed

def flowPair : Nat → Read NodeId
  | 0 => malformed
  | fuel + 1 => do
    let id ← addNode .mapping (.mapping [])
    advance
    let k ← nodeUnless [.value, .flowItem, .flowSequenceEnd] false false fuel
    match ← peek with
    | .value =>
      advance
      let v ← nodeUnless [.flowItem, .flowSequenceEnd] false false fuel
      setContent id (.mapping [(k, v)])
    | _ =>
      let v ← addEmpty
      setContent id (.mapping [(k, v)])
    pure id

def flowItems (id : NodeId) (first : Bool) (done : List NodeId) : Nat → Read NodeId
  | 0 => malformed
  | fuel + 1 => do
    if (← peek) = .flowSequenceEnd then
      advance
      setContent id (.sequence done.reverse)
      pure id
    else
      if !first then
        if (← peek) = .flowItem then advance else malformed
      match ← peek with
      | .flowSequenceEnd =>
        advance
        setContent id (.sequence done.reverse)
        pure id
      | .key =>
        let n ← flowPair fuel
        flowItems id false (n :: done) fuel
      | _ =>
        let n ← node false false fuel
        flowItems id false (n :: done) fuel

def flowEntries (id : NodeId) (first : Bool) (done : List NodeEntry) : Nat → Read NodeId
  | 0 => malformed
  | fuel + 1 => do
    if (← peek) = .flowMappingEnd then
      advance
      setContent id (.mapping done.reverse)
      pure id
    else
      if !first then
        if (← peek) = .flowItem then advance else malformed
      match ← peek with
      | .flowMappingEnd =>
        advance
        setContent id (.mapping done.reverse)
        pure id
      | .key =>
        advance
        let k ← nodeUnless [.value, .flowItem, .flowMappingEnd] false false fuel
        match ← peek with
        | .value =>
          advance
          let v ← nodeUnless [.flowItem, .flowMappingEnd] false false fuel
          flowEntries id false ((k, v) :: done) fuel
        | _ =>
          let v ← addEmpty
          flowEntries id false ((k, v) :: done) fuel
      | _ =>
        let k ← node false false fuel
        let v ← addEmpty
        flowEntries id false ((k, v) :: done) fuel

end

def standardHandles : List (String × String) :=
  [("!", "!"), ("!!", tagNamespace)]

/-- The directives before a document: one version at most, of which only the first number counts, and
every handle once. -/
def directives (hasVersion : Bool) (handles : List (String × String)) :
    Nat → Read (List (String × String))
  | 0 => malformed
  | fuel + 1 => do
    match ← peek with
    | .directive d =>
      advance
      match d with
      | .version major _ =>
        if hasVersion || major ≠ 1 then malformed else directives true handles fuel
      | .tag handle namespaceText =>
        if handles.any fun h => h.1 = handle then malformed
        else directives hasVersion ((handle, namespaceText) :: handles) fuel
      | .other => directives hasVersion handles fuel
    | _ => pure handles

def fuel : Read Nat := do
  return 4 * (← get).tokens.length + 16

def hasNoNode : Token → Bool
  | .directive _ | .documentStart | .documentEnd | .streamEnd => true
  | _ => false

def markedDocument : Read NodeId := do
  let handles ← directives false [] (← fuel)
  modify fun r => { r with handles := handles ++ standardHandles }
  if (← peek) = .documentStart then
    advance
    if hasNoNode (← peek) then addEmpty else node true false (← fuel)
  else malformed

def skipDocumentEnds : Nat → Read Unit
  | 0 => malformed
  | fuel + 1 => do
    if (← peek) = .documentEnd then
      advance
      skipDocumentEnds fuel

/-- What may follow the only document. The directives of another one are looked at before it is
refused. -/
def finish : Read Unit := do
  skipDocumentEnds (← fuel)
  if (← peek) ≠ .streamEnd then
    let _ ← directives false [] (← fuel)
    let _ ← peek
    malformed

def root? : Read (Option NodeId) := do
  match ← peek with
  | .streamEnd => pure none
  | .directive _ | .documentStart =>
    let id ← markedDocument
    finish
    pure (some id)
  | _ =>
    let id ← node true false (← fuel)
    finish
    pure (some id)

end Read

structure Document where
  graph : Graph
  root : NodeId

def Document.ofTokens? (ts : TokenStream) : Except Fault (Option Document) := do
  let (root, r) ← Read.root?.run ⟨ts.tokens, ts.fault, Read.standardHandles, [], .empty⟩
  pure (root.map fun id => ⟨r.graph, id⟩)

end WorkspaceImport.Yaml
