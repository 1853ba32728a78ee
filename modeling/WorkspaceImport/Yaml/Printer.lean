import WorkspaceImport.Data.Value
import WorkspaceImport.Yaml.Kind
import WorkspaceImport.Yaml.Page
/-!
Writing plain data as a YAML document in block style, with the entries of mappings in their order.
Items of a list that stands beside a key are not indented.
-/
namespace WorkspaceImport.Yaml

def scalarForm : Value → ScalarStyle × String
  | .null => (.plain, "null")
  | .bool b => (.plain, if b then "true" else "false")
  | .int n => (.plain, toString n)
  | .float x => (.plain, x.write .yaml)
  | .text s => (ScalarStyle.choose (Kind.ofText s = .text) s.toList, s)
  | v => (.plain, v.display)

def simpleKeyLimit : Nat := 122

def isSimpleKey (key : Value) : Bool :=
  let cs := (scalarForm key).2.toList
  !cs.isEmpty && cs.length ≤ simpleKeyLimit && !cs.any isBreak

/-- Where a value stands: the indentation of what it stands in, nothing for the document, and whether
it stands in a mapping. -/
structure Position where
  outer : Option Nat
  inMapping : Bool

def Position.scalarIndent (place : Position) : Nat :=
  place.outer.getD 0 + 2

def Position.innerIndent (place : Position) : Nat :=
  place.outer.elim 0 (· + 2)

def Position.itemIndent (place : Position) (p : Page) : Nat :=
  if place.inMapping && !p.isIndented then place.outer.getD 0 else place.innerIndent

def Page.writeScalarOf (p : Page) (indent : Nat) (mayFold : Bool) (v : Value) : Page :=
  let form := scalarForm v
  p.writeScalar indent mayFold form.1 form.2.toList

mutual

def writeValue (place : Position) (v : Value) (p : Page) : Page :=
  match v with
  | .list [] => p.mark "[]"
  | .map [] => p.mark "\x7b\x7d"
  | .list items | .set items => writeItems (place.itemIndent p) items p
  | .pair a b =>
    let indent := place.itemIndent p
    let item (v : Page → Page) (p : Page) : Page := v ((p.goTo indent).itemMark '-')
    item (writeValue ⟨some indent, false⟩ b) (item (writeValue ⟨some indent, false⟩ a) p)
  | .map entries => writeEntries place.innerIndent entries p
  | v => p.writeScalarOf place.scalarIndent true v

def writeItems (indent : Nat) : List Value → Page → Page
  | [], p => p
  | v :: rest, p =>
    writeItems indent rest (writeValue ⟨some indent, false⟩ v ((p.goTo indent).itemMark '-'))

def writeEntries (indent : Nat) : List (Value × Value) → Page → Page
  | [], p => p
  | (k, v) :: rest, p =>
    let p := p.goTo indent
    let p :=
      if isSimpleKey k then ((p.writeScalarOf (indent + 2) false k).write [':']).endIndent
      else
        ((p.itemMark '?').writeScalarOf (indent + 2) true k |>.goTo indent).itemMark ':'
    writeEntries indent rest (writeValue ⟨some indent, true⟩ v p)

end

def isOpenEnded : Value → Bool
  | .list _ | .map _ => false
  | v => (scalarForm v).1 = .plain

def write (v : Value) : String :=
  let p := (writeValue ⟨none, false⟩ v .blank).goTo 0
  (if isOpenEnded v then (p.mark "...").goTo 0 else p).text

end WorkspaceImport.Yaml
