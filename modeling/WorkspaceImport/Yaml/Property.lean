import WorkspaceImport.Number.Numeral
import WorkspaceImport.Text.Utf8
import WorkspaceImport.Yaml.Scalar.Quoted
/-!
What may stand before a value or a document: the names of anchors, tags, and directives.
-/
namespace WorkspaceImport.Yaml

def isNameChar (c : Char) : Bool :=
  ('0' ≤ c && c ≤ '9') || ('A' ≤ c && c ≤ 'Z') || ('a' ≤ c && c ≤ 'z') || c = '-' || c = '_'

def isTagChar (c : Char) : Bool :=
  isNameChar c || "-;/?:@&=+$,_.!~*\x27()[]%".toList.contains c

def nameAt (c : Cursor) : Except Fault (String × Cursor) :=
  let (name, after) := c.takeRun isNameChar
  if name.isEmpty then .error after.refusal else .ok (String.ofList name, after)

def anchorName (c : Cursor) : Except Fault (String × Cursor) := do
  let (name, after) ← nameAt c.next
  if endsWord after.head? || after.head?.any ("?:,]\x7d%@\x60".toList.contains ·) then
    pure (name, after)
  else .error after.refusal

/-- A handle between exclamation marks, or a single mark. Directives know handles that end at a
blank. -/
def handleAt (c : Cursor) : Except Fault (String × Cursor) :=
  if c.head? ≠ some '!' then .error c.refusal
  else if c.peek 1 = some ' ' then .ok ("!", c.next)
  else
    let (name, after) := c.next.takeRun isNameChar
    if after.head? = some '!' then .ok (String.ofList ('!' :: name ++ ['!']), after.next)
    else .error after.refusal

def percentBytes : List Char → Except Fault (List UInt8 × List Char)
  | '%' :: a :: b :: rest =>
    match Json.hexValue? a, Json.hexValue? b with
    | some h, some l => do
      let (more, left) ← percentBytes rest
      pure (UInt8.ofNat (h * 16 + l) :: more, left)
    | _, _ => .error .malformed
  | '%' :: _ => .error .malformed
  | cs => .ok ([], cs)

def tagChars (done : List Char) : Nat → List Char → Except Fault (List Char)
  | 0, _ => .error .malformed
  | _ + 1, [] => .ok done.reverse
  | fuel + 1, ch :: rest =>
    if ch = '%' then do
      let (bytes, left) ← percentBytes (ch :: rest)
      match Text.decodeUtf8 ⟨bytes.toArray⟩ with
      | .ok s => tagChars (s.toList.reverse ++ done) fuel left
      | .error _ => .error .malformed
    else tagChars (ch :: done) fuel rest

def tagText (c : Cursor) : Except Fault (String × Cursor) := do
  let (run, after) := c.takeRun isTagChar
  let cs ← tagChars [] (run.length + 1) run
  if run.isEmpty then .error after.refusal else pure (String.ofList cs, after)

structure TagText where
  handle : Option String
  suffix : String
  deriving DecidableEq

def hasHandle (c : Cursor) : Bool :=
  (c.rest.takeWhile fun ch => !(ch = ' ' || isBreak ch)).contains '!'

def endsTag (c : Option Char) : Bool :=
  c = some ' ' || endsLine c

def tagAt (c : Cursor) : Except Fault (TagText × Cursor) := do
  let (tag, after) ←
    if c.peek 1 = some '<' then do
      let (suffix, after) ← tagText (c.skip 2)
      if after.head? = some '>' then pure (TagText.mk none suffix, after.next)
      else .error after.refusal
    else if endsWord (c.peek 1) then pure (⟨none, "!"⟩, c.next)
    else if hasHandle c.next then do
      let (handle, after) ← handleAt c
      let (suffix, after) ← tagText after
      pure (⟨some handle, suffix⟩, after)
    else do
      let (suffix, after) ← tagText c.next
      pure (⟨some "!", suffix⟩, after)
  if endsTag after.head? then pure (tag, after) else .error after.refusal

inductive Directive where
  | version (major minor : Int)
  | tag (handle namespaceText : String)
  | other
  deriving DecidableEq

def numberAt (c : Cursor) : Except Fault (Int × Cursor) :=
  let (digits, after) := c.takeRun Json.isDigit
  if digits.isEmpty then .error after.refusal
  else
    match after.met?, Numeral.whole 10 digits with
    | some fault, _ => .error fault
    | none, .error fault => .error (.badValue fault.message)
    | none, .ok n => .ok (n, after)

def directiveAt (c : Cursor) : Except Fault (Directive × Cursor) := do
  let (name, after) ← nameAt c.next
  if !endsTag after.head? then .error after.refusal
  else
    let (directive, after) ←
      if name = "YAML" then do
        let (major, after) ← numberAt after.skipSpaces
        if after.head? ≠ some '.' then .error after.refusal
        else
          let (minor, after) ← numberAt after.next
          if endsTag after.head? then pure (Directive.version major minor, after)
          else .error after.refusal
      else if name = "TAG" then do
        let (handle, after) ← handleAt after.skipSpaces
        if after.head? ≠ some ' ' then .error after.refusal
        else
          let (namespaceText, after) ← tagText after.skipSpaces
          if endsTag after.head? then pure (.tag handle namespaceText, after)
          else .error after.refusal
      else pure (.other, after.skipRun fun ch => !isBreak ch)
    pure (directive, ← after.finishLine)

end WorkspaceImport.Yaml
