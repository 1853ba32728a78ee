import WorkspaceImport.Data.Value
import WorkspaceImport.TextFormat.Token
/-!
Messages of the text format. A message is the list of its fields in the order of the text; looking a
field up by its name, or grouping the fields by name, are functions on that list.
-/
namespace WorkspaceImport.TextFormat

/-- The value of a field: a text, or a message with fields of its own. -/
inductive Item where
  | scalar (s : String)
  | message (fields : List (String × Item))
  deriving Inhabited

abbrev Message := List (String × Item)

inductive GrammarFault where
  | nameExpected (found : Token)
  | valueMissing (field : String)
  | badValue (field : String) (found : Token)
  | unclosed (closer : Char)
  deriving DecidableEq

def isLiteral : Token → Bool
  | .literal _ _ => true
  | _ => false

def literalText : Token → List Char
  | .literal _ body => unescape body
  | _ => []

def dropColon : List Token → List Token
  | .mark ':' :: rest => rest
  | ts => ts

theorem length_dropColon_le (ts : List Token) : (dropColon ts).length ≤ ts.length := by
  unfold dropColon; split <;> simp

def closer? (c : Char) : Option Char :=
  if c = '{' then some '}' else if c = '<' then some '>' else none

/-- Where the reader of tokens stops: at tokens that are no message, or at one message too many inside
each other. -/
inductive Stop where
  | grammar (fault : GrammarFault)
  | nestedTooDeep

/-- The fields up to the closing mark, or up to the end of the tokens where no mark is awaited, with at
most `depth` messages open inside each other. Neighbouring literals make up one text. -/
def fields (depth : Nat) (closing : Option Char) (ts : List Token) :
    Except Stop (Message × { rest : List Token // rest.length ≤ ts.length }) :=
  match ts with
  | [] =>
    match closing with
    | none => .ok ([], ⟨[], by simp⟩)
    | some c => .error (.grammar (.unclosed c))
  | .mark c :: rest =>
    if closing = some c then .ok ([], ⟨rest, by simp⟩)
    else if c = ',' ∨ c = ';' then
      match fields depth closing rest with
      | .error fault => .error fault
      | .ok (more, left) => .ok (more, ⟨left.1, by have := left.2; simp; omega⟩)
    else .error (.grammar (.nameExpected (.mark c)))
  | .literal quote body :: _ => .error (.grammar (.nameExpected (.literal quote body)))
  | .word cs :: rest =>
    let name := String.ofList cs
    have short := length_dropColon_le rest
    match value : dropColon rest with
    | [] => .error (.grammar (.valueMissing name))
    | .mark c :: after =>
      match closer? c with
      | none => .error (.grammar (.badValue name (.mark c)))
      | some closer =>
        match depth with
        | 0 => .error .nestedTooDeep
        | deeper + 1 =>
          have inside : after.length < rest.length + 1 := by
            rw [value] at short; simp at short; omega
          match fields deeper (some closer) after with
          | .error fault => .error fault
          | .ok (inner, left) =>
            have := left.2
            match fields (deeper + 1) closing left.1 with
            | .error fault => .error fault
            | .ok (more, left') =>
              .ok ((name, .message inner) :: more, ⟨left'.1, by have := left'.2; simp; omega⟩)
    | .literal quote body :: after =>
      let literals := after.takeWhile isLiteral
      let item := String.ofList (unescape body ++ literals.flatMap literalText)
      have inside : (after.dropWhile isLiteral).length < rest.length + 1 := by
        have h := (List.dropWhile_sublist isLiteral (l := after)).length_le
        rw [value] at short; simp at short; omega
      match fields depth closing (after.dropWhile isLiteral) with
      | .error fault => .error fault
      | .ok (more, left) =>
        .ok ((name, .scalar item) :: more, ⟨left.1, by have := left.2; simp; omega⟩)
    | .word w :: after =>
      have inside : after.length < rest.length + 1 := by
        rw [value] at short; simp at short; omega
      match fields depth closing after with
      | .error fault => .error fault
      | .ok (more, left) =>
        .ok ((name, .scalar (String.ofList w)) :: more,
          ⟨left.1, by have := left.2; simp; omega⟩)
termination_by ts.length

def ofTokens (depth : Nat) (ts : List Token) : Except Stop Message :=
  (fields depth none ts).map (·.1)

inductive Fault where
  | scan (fault : ScanFault)
  | stop (stop : Stop)

/-- The message that a text stands for, unless more than `depth` messages are open in it at once. -/
def parseWithin (depth : Nat) (s : String) : Except Fault Message :=
  match tokens s.toList with
  | .error fault => .error (.scan fault)
  | .ok ts => (ofTokens depth ts).mapError .stop

def parse (s : String) : Except Fault Message :=
  parseWithin nestingLimit s

def GrammarFault.message : GrammarFault → String
  | .nameExpected found => "期望字段名，实际为 " ++ Text.quoted found.text
  | .valueMissing field => "字段 " ++ field ++ " 缺少值"
  | .badValue field found => "字段 " ++ field ++ " 的值非法: " ++ Text.quoted found.text
  | .unclosed closer => "缺少闭合的 " ++ Text.quoted (String.singleton closer)

def Fault.message : Fault → String
  | .scan fault =>
    "无法识别的字符 (offset " ++ toString fault.offset ++ "): " ++
      Text.quoted (String.ofList (fault.rest.take 20))
  | .stop (.grammar fault) => fault.message
  | .stop .nestedTooDeep => "maximum recursion depth exceeded"

def addToGroup (name : String) (v : Value) :
    List (String × List Value) → List (String × List Value)
  | [] => [(name, [v])]
  | (n, vs) :: rest =>
    if n = name then (n, v :: vs) :: rest else (n, vs) :: addToGroup name v rest

mutual

/-- The fields grouped by name as a data value: names in the order of their first field, the values
of each name in the order of the text, at every depth. -/
def Item.toValue : Item → Value
  | .scalar s => .text s
  | .message fs => .ofFields ((groups [] fs).map fun g => (g.1, .list g.2.reverse))

/-- The groups after the fields of a message were added to `done`; the newest value of a group comes
first. -/
def groups (done : List (String × List Value)) :
    List (String × Item) → List (String × List Value)
  | [] => done
  | (name, item) :: rest => groups (addToGroup name item.toValue done) rest

end

def Message.toValue (m : Message) : Value :=
  (Item.message m).toValue

end WorkspaceImport.TextFormat
