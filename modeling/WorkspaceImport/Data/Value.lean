import WorkspaceImport.Data.Moment
import WorkspaceImport.Number.Shortest
import WorkspaceImport.OrderedMap
import WorkspaceImport.Text.Blank
import WorkspaceImport.Text.Quoted
/-!
Data values as they come out of JSON and YAML documents, and the text in which messages show them.
-/
namespace WorkspaceImport

/-- How deep things may be nested that are gone through by recursion: brackets in documents, wildcards
in the expansions of others, directories. -/
def nestingLimit : Nat := 1000

/-- Bytes, moments, pairs and sets come out of YAML documents only. There a list or a mapping may also
stand inside itself, which is where `again` stands. -/
inductive Value where
  | null
  | bool (b : Bool)
  | int (n : Int)
  | float (x : Binary64)
  | text (s : String)
  | bytes (content : List UInt8)
  | moment (m : Moment)
  | list (items : List Value)
  | pair (first second : Value)
  | set (members : List Value)
  | map (entries : List (Value × Value))
  | again (isMap : Bool)
  deriving Inhabited

namespace Value

/-- The whole number or the float that a value counts as; truth values count as one and zero. -/
def number? : Value → Option (Int ⊕ Binary64)
  | .bool b => some (.inl (if b then 1 else 0))
  | .int n => some (.inl n)
  | .float x =>
    match x.toInt? with
    | some n => some (.inl n)
    | none => some (.inr x)
  | _ => none

/-- Whether two scalars are one key of a mapping: numbers are compared by what they are worth. -/
def sameKey (a b : Value) : Bool :=
  match a, b with
  | .null, .null => true
  | .text s, .text t => s == t
  | .bytes s, .bytes t => s == t
  | .moment m, .moment n => m.same n
  | a, b =>
    match a.number?, b.number? with
    | some (.inl m), some (.inl n) => m == n
    | some (.inr x), some (.inr y) => x != .nan && x == y
    | _, _ => false

/-- Writing an entry into a mapping; the first spelling of a key and its place are kept. -/
def putEntry {α : Type} (k : Value) (v : α) : List (Value × α) → List (Value × α)
  | [] => [(k, v)]
  | (k', v') :: rest =>
    if sameKey k' k then (k', v) :: rest else (k', v') :: putEntry k v rest

def field? (name : String) : List (Value × Value) → Option Value
  | [] => none
  | (.text k, v) :: rest => if k = name then some v else field? name rest
  | _ :: rest => field? name rest

/-- Values that count as absent where a value is wanted: null, zero and what is empty. -/
def isFalsy : Value → Bool
  | .null => true
  | .bool b => !b
  | .int n => n == 0
  | .float x => x.isZero
  | .text s => s.isEmpty
  | .bytes content => content.isEmpty
  | .moment _ | .pair .. | .again _ => false
  | .list items | .set items => items.isEmpty
  | .map entries => entries.isEmpty

def typeName : Value → String
  | .null => "NoneType"
  | .bool _ => "bool"
  | .int _ => "int"
  | .float _ => "float"
  | .text _ => "str"
  | .bytes _ => "bytes"
  | .moment m => m.typeName
  | .pair .. => "tuple"
  | .set _ => "set"
  | .list _ | .again false => "list"
  | .map _ | .again true => "dict"

mutual

def shown : Value → String
  | .null => "None"
  | .bool b => if b then "True" else "False"
  | .int n => toString n
  | .float x => x.write .message
  | .text s => Text.quoted s
  | .bytes content => Text.quotedBytes content
  | .moment m => m.shown
  | .list items => "[" ++ String.intercalate ", " (shownItems items) ++ "]"
  | .pair a b => "(" ++ a.shown ++ ", " ++ b.shown ++ ")"
  | .set [] => "set()"
  | .set members => "\x7b" ++ String.intercalate ", " (shownItems members) ++ "\x7d"
  | .map entries => "\x7b" ++ String.intercalate ", " (shownEntries entries) ++ "\x7d"
  | .again isMap => if isMap then "\x7b...\x7d" else "[...]"

def shownItems : List Value → List String
  | [] => []
  | v :: rest => v.shown :: shownItems rest

def shownEntries : List (Value × Value) → List String
  | [] => []
  | (k, v) :: rest => (k.shown ++ ": " ++ v.shown) :: shownEntries rest

end

def display : Value → String
  | .text s => s
  | .moment m => m.text
  | v => v.shown

def text? : Value → Option String
  | .text s => some s
  | _ => none

/-- A text or bytes without the blanks at the two ends; other values have no ends. -/
def stripped? : Value → Option Value
  | .text s => some (.text (Text.strip s))
  | .bytes content => some (.bytes (Text.stripBytes content))
  | _ => none

def ofTexts (items : List String) : Value :=
  .list (items.map .text)

mutual

def isFinite : Value → Bool
  | .again _ => false
  | .list items | .set items => areFinite items
  | .pair a b => a.isFinite && b.isFinite
  | .map entries => entriesAreFinite entries
  | _ => true

def areFinite : List Value → Bool
  | [] => true
  | v :: rest => v.isFinite && areFinite rest

def entriesAreFinite : List (Value × Value) → Bool
  | [] => true
  | (k, v) :: rest => k.isFinite && v.isFinite && entriesAreFinite rest

end

def ofFields (fields : List (String × Value)) : Value :=
  .map (fields.map fun f => (.text f.1, f.2))

end Value

end WorkspaceImport
