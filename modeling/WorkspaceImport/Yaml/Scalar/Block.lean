import WorkspaceImport.Yaml.Cursor
/-!
Block scalars: indented lines after `|` or `>`. The header may fix the indentation and say what
becomes of the breaks at the end. Between `>` lines that begin with text a single break counts as a
blank.
-/
namespace WorkspaceImport.Yaml

/-- What becomes of the breaks at the end: all are dropped, one is kept, or all are kept. -/
inductive Chomping where
  | strip
  | clip
  | keep
  deriving DecidableEq

structure BlockHeader where
  chomping : Chomping
  increment : Option Nat

def chomping? (c : Option Char) : Option Chomping :=
  match c with
  | some '+' => some .keep
  | some '-' => some .strip
  | _ => none

def indentDigit? (c : Option Char) : Option Nat :=
  match c with
  | some d => if '0' ≤ d ∧ d ≤ '9' then some (d.toNat - 48) else none
  | none => none

def blockHeader (c : Cursor) : Except Fault (BlockHeader × Cursor) := do
  let (header, after) :=
    match chomping? c.head? with
    | some chomping =>
      match indentDigit? c.next.head? with
      | some n => (BlockHeader.mk chomping (some n), c.skip 2)
      | none => (⟨chomping, none⟩, c.next)
    | none =>
      match indentDigit? c.head? with
      | none => (⟨.clip, none⟩, c)
      | some n =>
        match chomping? c.next.head? with
        | some chomping => (⟨chomping, some n⟩, c.skip 2)
        | none => (⟨.clip, some n⟩, c.next)
  if header.increment = some 0 then .error .malformed
  else if after.head? = some ' ' ∨ endsLine after.head? then pure (header, after)
  else .error .malformed

def leadingBreaks (done : List Char) (greatest : Nat) :
    Nat → Cursor → List Char × Nat × Cursor
  | 0, c => (done, greatest, c)
  | fuel + 1, c =>
    match c.lineBreak? with
    | some (b, after) => leadingBreaks (b :: done) greatest fuel after
    | none =>
      if c.head? = some ' ' then leadingBreaks done (max greatest c.next.column) fuel c.next
      else (done, greatest, c)

def skipIndent (indent : Nat) : Nat → Cursor → Cursor
  | 0, c => c
  | fuel + 1, c =>
    if c.column < indent ∧ c.head? = some ' ' then skipIndent indent fuel c.next else c

def blockBreaks (indent : Nat) (done : List Char) : Nat → Cursor → List Char × Cursor
  | 0, c => (done, c)
  | fuel + 1, c =>
    let c := skipIndent indent indent c
    match c.lineBreak? with
    | some (b, after) => blockBreaks indent (b :: done) fuel after
    | none => (done, c)

/-- The lines of a block scalar; `done` holds the text so far and `breaks` the breaks before the
place, both newest first. The answer has the text, the last break and the breaks after it. -/
def blockLines (folded : Bool) (indent : Nat) (done breaks lastBreak : List Char) :
    Nat → Cursor → (List Char × List Char × List Char) × Cursor
  | 0, c => ((done, lastBreak, breaks), c)
  | fuel + 1, c =>
    if c.column = indent ∧ !c.atEnd then
      let beginsWithText := !c.head?.any fun ch => ch = ' ' || ch = '\t'
      let (line, after) := c.takeRun fun ch => !isBreak ch
      let (lineBreak, after) :=
        match after.lineBreak? with
        | some (b, after) => ([b], after)
        | none => ([], after)
      let (breaks', after) := blockBreaks indent [] (after.left + 1) after
      let done := line.reverse ++ (breaks ++ done)
      if after.column = indent ∧ !after.atEnd then
        let continues := !after.head?.any fun ch => ch = ' ' || ch = '\t'
        let joint :=
          if folded && lineBreak = ['\n'] && beginsWithText && continues then
            if breaks'.isEmpty then [' '] else []
          else lineBreak
        blockLines folded indent (joint ++ done) breaks' lineBreak fuel after
      else ((done, lineBreak, breaks'), after)
    else ((done, lastBreak, breaks), c)

/-- The text of a block scalar and the place after it. The cursor is at the mark, and `parent` is the
indentation of the collection around it. -/
def blockScalar (folded : Bool) (parent : Int) (c : Cursor) : Except Fault (String × Cursor) := do
  let (header, after) ← blockHeader c.next
  let c ← after.finishLine
  let least := (max (parent + 1) 1).toNat
  let fuel := c.left + 1
  let (indent, breaks, c) :=
    match header.increment with
    | none =>
      let (breaks, greatest, after) := leadingBreaks [] 0 fuel c
      (max least greatest, breaks, after)
    | some n =>
      let indent := least + n - 1
      let (breaks, after) := blockBreaks indent [] fuel c
      (indent, breaks, after)
  let ((body, lastBreak, tail), after) := blockLines folded indent [] breaks [] fuel c
  let text :=
    match header.chomping with
    | .strip => body
    | .clip => lastBreak ++ body
    | .keep => tail ++ (lastBreak ++ body)
  pure (String.ofList text.reverse, after)

end WorkspaceImport.Yaml
