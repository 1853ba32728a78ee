import WorkspaceImport.Yaml.Property
import WorkspaceImport.Yaml.Scalar.Block
import WorkspaceImport.Yaml.Scalar.Plain
import WorkspaceImport.Yaml.Source
/-!
Tokens of a YAML document. Indentation opens and closes collections, and a value that is followed by a
colon turns out to be a key only when the colon is read; the tokens that say so are then put before
the tokens of the key. A key has to fit on one line and to be no longer than a limit. Where a text goes
wrong, the tokens before the fault are there for whoever finds another fault in them first.
-/
namespace WorkspaceImport.Yaml

inductive Token where
  | streamEnd
  | directive (d : Directive)
  | documentStart
  | documentEnd
  | blockSequence
  | blockMapping
  | blockEnd
  | flowSequence
  | flowMapping
  | flowSequenceEnd
  | flowMappingEnd
  | blockItem
  | flowItem
  | key
  | value
  | reference (anchor : String)
  | anchor (name : String)
  | tag (t : TagText)
  | scalar (text : String) (plain : Bool)
  deriving DecidableEq

/-- Where a key could begin, and the number of tokens before it. A required key has to be followed by
a colon. -/
structure PossibleKey where
  tokensBefore : Nat
  required : Bool
  index : Nat
  line : Nat
  column : Nat

def keyLimit : Nat := 1024

structure Scanner where
  cursor : Cursor
  flowLevel : Nat
  indent : Int
  indents : List Int
  keyAllowed : Bool
  possibleKeys : List (Nat × PossibleKey)
  tokens : List Token
  count : Nat

namespace Scanner

def start (source : Source) : Scanner :=
  ⟨.start source.text source.obstacle, 0, -1, [], true, [], [], 0⟩

def inFlow (s : Scanner) : Bool :=
  0 < s.flowLevel

def emit (s : Scanner) (t : Token) : Scanner :=
  { s with tokens := t :: s.tokens, count := s.count + 1 }

def insertAt (s : Scanner) (place : Nat) (t : Token) : Scanner :=
  let later := s.count - place
  { s with
    tokens := s.tokens.take later ++ t :: s.tokens.drop later
    count := s.count + 1 }

/-- Blanks, comments and breaks before the next token. Outside flow collections a new line may begin
with a key. -/
def skipGap (inFlow : Bool) (keyAllowed : Bool) : Nat → Cursor → Cursor × Bool
  | 0, c => (c, keyAllowed)
  | fuel + 1, c =>
    let c := c.skipSpaces.skipComment
    match c.lineBreak? with
    | some (_, after) => skipGap inFlow (keyAllowed || !inFlow) fuel after
    | none => (c, keyAllowed)

def toNextToken (s : Scanner) : Scanner :=
  let c := s.cursor
  let c := if c.index = 0 ∧ c.head? = some byteOrderMark then c.next else c
  let (after, keyAllowed) := skipGap s.inFlow s.keyAllowed (c.left + 1) c
  { s with cursor := after, keyAllowed := keyAllowed }

def isStale (s : Scanner) (k : PossibleKey) : Bool :=
  k.line ≠ s.cursor.line || keyLimit < s.cursor.index - k.index

def dropStaleKeys (s : Scanner) : Except Fault Scanner :=
  if s.possibleKeys.any fun e => s.isStale e.2 && e.2.required then .error .malformed
  else .ok { s with possibleKeys := s.possibleKeys.filter fun e => !s.isStale e.2 }

def possibleKey? (s : Scanner) : Option PossibleKey :=
  (s.possibleKeys.find? fun e => e.1 = s.flowLevel).map (·.2)

def forgetKey (s : Scanner) : Scanner :=
  { s with possibleKeys := s.possibleKeys.filter fun e => e.1 ≠ s.flowLevel }

def removeKey (s : Scanner) : Except Fault Scanner :=
  match s.possibleKey? with
  | some k => if k.required then .error .malformed else .ok s.forgetKey
  | none => .ok s

def saveKey (s : Scanner) : Except Fault Scanner :=
  if s.keyAllowed then do
    let required := !s.inFlow && s.indent == (s.cursor.column : Int)
    let s ← s.removeKey
    let k : PossibleKey := ⟨s.count, required, s.cursor.index, s.cursor.line, s.cursor.column⟩
    pure { s with possibleKeys := (s.flowLevel, k) :: s.possibleKeys }
  else .ok s

def unwindTo (column : Int) : Nat → Scanner → Scanner
  | 0, s => s
  | fuel + 1, s =>
    if column < s.indent then
      unwindTo column fuel
        ({ s with indent := s.indents.head?.getD (-1), indents := s.indents.tail }.emit .blockEnd)
    else s

def unwind (s : Scanner) (column : Int) : Scanner :=
  if s.inFlow then s else unwindTo column (s.indents.length + 1) s

def opensAt (s : Scanner) (column : Nat) : Bool :=
  s.indent < (column : Int)

def indentTo (s : Scanner) (column : Nat) : Scanner :=
  { s with indent := column, indents := s.indent :: s.indents }

def advance (s : Scanner) (n : Nat) : Scanner :=
  { s with cursor := s.cursor.skip n }

def allowKey (s : Scanner) (allowed : Bool) : Scanner :=
  { s with keyAllowed := allowed }

def closeDocument (s : Scanner) : Except Fault Scanner := do
  pure ((← (s.unwind (-1)).removeKey).allowKey false)

def flowStart (s : Scanner) (t : Token) : Except Fault Scanner := do
  let s ← s.saveKey
  pure (({ s with flowLevel := s.flowLevel + 1 }.allowKey true).advance 1 |>.emit t)

def flowEnd (s : Scanner) (t : Token) : Except Fault Scanner := do
  let s ← s.removeKey
  if s.flowLevel = 0 then .error .malformed
  else pure (({ s with flowLevel := s.flowLevel - 1 }.allowKey false).advance 1 |>.emit t)

def flowItem (s : Scanner) : Except Fault Scanner := do
  pure ((← (s.allowKey true).removeKey).advance 1 |>.emit .flowItem)

def openBlock (s : Scanner) (t : Token) : Except Fault Scanner :=
  if s.inFlow then .ok s
  else if !s.keyAllowed then .error .malformed
  else if s.opensAt s.cursor.column then .ok ((s.indentTo s.cursor.column).emit t)
  else .ok s

def blockItem (s : Scanner) : Except Fault Scanner := do
  let s ← s.openBlock .blockSequence
  pure ((← (s.allowKey true).removeKey).advance 1 |>.emit .blockItem)

def explicitKey (s : Scanner) : Except Fault Scanner := do
  let s ← s.openBlock .blockMapping
  pure ((← (s.allowKey !s.inFlow).removeKey).advance 1 |>.emit .key)

def valueMark (s : Scanner) : Except Fault Scanner :=
  match s.possibleKey? with
  | some k =>
    let s := s.forgetKey.insertAt k.tokensBefore .key
    let s :=
      if !s.inFlow && s.opensAt k.column then
        (s.indentTo k.column).insertAt k.tokensBefore .blockMapping
      else s
    .ok ((s.allowKey false).advance 1 |>.emit .value)
  | none => do
    let s ← s.openBlock .blockMapping
    pure ((← (s.allowKey !s.inFlow).removeKey).advance 1 |>.emit .value)

def node (s : Scanner) (read : Cursor → Except Fault (Token × Cursor)) : Except Fault Scanner := do
  let s ← s.saveKey
  let (t, after) ← read s.cursor
  pure ({ s.allowKey false with cursor := after }.emit t)

def plain (s : Scanner) : Except Fault Scanner := do
  let s ← s.saveKey
  let found := plainScalar s.inFlow s.indent s.cursor
  pure ({ s.allowKey found.newLine with cursor := found.after }.emit (.scalar found.text true))

def block (s : Scanner) (folded : Bool) : Except Fault Scanner := do
  let s ← (s.allowKey true).removeKey
  let (text, after) ← blockScalar folded s.indent s.cursor
  pure ({ s with cursor := after }.emit (.scalar text false))

def directive (s : Scanner) : Except Fault Scanner := do
  let s ← s.closeDocument
  let (d, after) ← directiveAt s.cursor
  pure ({ s with cursor := after }.emit (.directive d))

def documentMark (s : Scanner) (t : Token) : Except Fault Scanner := do
  pure ((← s.closeDocument).advance 3 |>.emit t)

def isIndicator (c : Char) : Bool :=
  "-?:,[]\x7b\x7d#&*!|>\x27\x22%@\x60".toList.contains c

def beginsPlain (s : Scanner) (c : Char) : Bool :=
  (!isSeparator c && !isIndicator c) ||
    (!endsWord (s.cursor.peek 1) && (c = '-' || (!s.inFlow && (c = '?' || c = ':'))))

def lookAround (s : Scanner) (c : Char) : Scanner :=
  let place := if c = '-' || c = '?' || c = ':' then s.cursor.lookAhead 2 else s.cursor
  let atMark := s.cursor.column = 0 && (c = '-' || c = '.')
  { s with cursor := if atMark then place.lookForMark else place }

def token (s : Scanner) (c : Char) : Except Fault Scanner :=
  let atWord := endsWord (s.cursor.peek 1)
  let atMargin := s.cursor.column = 0
  if c = '%' && atMargin then s.directive
  else if atMargin && s.cursor.isDocumentMark '-' then s.documentMark .documentStart
  else if atMargin && s.cursor.isDocumentMark '.' then s.documentMark .documentEnd
  else if c = '[' then s.flowStart .flowSequence
  else if c = '\x7b' then s.flowStart .flowMapping
  else if c = ']' then s.flowEnd .flowSequenceEnd
  else if c = '\x7d' then s.flowEnd .flowMappingEnd
  else if c = ',' then s.flowItem
  else if c = '-' && atWord then s.blockItem
  else if c = '?' && (s.inFlow || atWord) then s.explicitKey
  else if c = ':' && (s.inFlow || atWord) then s.valueMark
  else if c = '*' then s.node fun place => do
    let (name, after) ← anchorName place
    pure (.reference name, after)
  else if c = '&' then s.node fun place => do
    let (name, after) ← anchorName place
    pure (.anchor name, after)
  else if c = '!' then s.node fun place => do
    let (t, after) ← tagAt place
    pure (.tag t, after)
  else if c = '|' && !s.inFlow then s.block false
  else if c = '>' && !s.inFlow then s.block true
  else if c = '\x27' || c = '\x22' then s.node fun place => do
    let (text, after) ← quotedScalar place
    pure (.scalar text false, after)
  else if s.beginsPlain c then s.plain
  else .error (s.cursor.lookAhead 2).refusal

def unhindered (s : Scanner) : Except Fault Scanner :=
  match s.cursor.met? with
  | some fault => .error fault
  | none => .ok s

end Scanner

structure TokenStream where
  tokens : List Token
  fault : Option Fault

namespace Scanner

def settled (s : Scanner) : Nat :=
  s.possibleKeys.foldl (fun n e => min n e.2.tokensBefore) s.count

def stopped (s : Scanner) (fault : Fault) : TokenStream :=
  ⟨(s.tokens.drop (s.count - s.settled)).reverse, some fault⟩

def approach (s : Scanner) : Except Fault Scanner := do
  let s ← (← s.toNextToken.unhindered).dropStaleKeys
  pure (s.unwind s.cursor.column)

def run : Nat → Scanner → TokenStream
  | 0, s => s.stopped .malformed
  | fuel + 1, s =>
    match s.dropStaleKeys with
    | .error fault => s.stopped fault
    | .ok s =>
      match s.approach with
      | .error fault => s.stopped fault
      | .ok next =>
        match next.cursor.head? with
        | none =>
          match next.closeDocument with
          | .error fault => s.stopped fault
          | .ok last => ⟨(last.emit .streamEnd).tokens.reverse, none⟩
        | some c =>
          match (next.lookAround c).unhindered.bind (token · c) |>.bind unhindered with
          | .error fault => s.stopped fault
          | .ok next => run fuel next

end Scanner

def tokens (source : Source) : TokenStream :=
  Scanner.run (source.text.length + 1) (.start source)

end WorkspaceImport.Yaml
