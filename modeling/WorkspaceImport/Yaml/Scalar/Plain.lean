import WorkspaceImport.Yaml.Cursor
/-!
Plain scalars, which end where a mark could begin. Inside flow collections more characters are marks.
A plain scalar may go on in the next lines; a break then counts as a blank, and empty lines count as
breaks.
-/
namespace WorkspaceImport.Yaml

def isFlowMark (c : Char) : Bool :=
  c = ',' || c = '[' || c = ']' || c = '\x7b' || c = '\x7d'

def endsKey (inFlow : Bool) (c : Option Char) : Bool :=
  endsWord c || (inFlow && c.any isFlowMark)

def plainRun (inFlow : Bool) (done : List Char) : List Char → List Char
  | [] => done
  | ch :: rest =>
    if isSeparator ch || (ch = ':' && endsKey inFlow rest.head?) ||
        (inFlow && (isFlowMark ch || ch = '?')) then done
    else plainRun inFlow (ch :: done) rest

structure PlainGap where
  text : List Char
  newLine : Bool
  after : Cursor

def plainBreaks (done : List Char) : Nat → Cursor → Option (List Char) × Cursor
  | 0, c => (none, c)
  | fuel + 1, c =>
    if c.head? = some ' ' then plainBreaks done fuel c.next
    else
      match c.lineBreak? with
      | none => (some done, c)
      | some (b, after) =>
        let after := after.lookForMark
        if after.isSeparatorMark then (none, after) else plainBreaks (b :: done) fuel after

def plainGap (c : Cursor) : PlainGap :=
  let (blanks, after) := c.takeRun (· = ' ')
  match after.lineBreak? with
  | none => ⟨blanks, false, after⟩
  | some (b, after) =>
    let after := after.lookForMark
    if after.isSeparatorMark then ⟨[], true, after⟩
    else
      match plainBreaks [] (after.left + 1) after with
      | (none, after) => ⟨[], true, after⟩
      | (some breaks, after) =>
        let folded := if b ≠ '\n' then [b] else if breaks.isEmpty then [' '] else []
        ⟨breaks ++ folded, true, after⟩

/-- A plain scalar as it was read: its text, the place after it, and whether the place is the first
of a line that does not belong to the scalar. -/
structure PlainScalar where
  text : String
  after : Cursor
  newLine : Bool

def plainFrom (inFlow : Bool) (indent : Int) (done gap : List Char) (newLine : Bool) :
    Nat → Cursor → PlainScalar
  | 0, c => ⟨String.ofList done.reverse, c, newLine⟩
  | fuel + 1, c =>
    let run := if c.head? = some '#' then [] else plainRun inFlow [] c.rest
    if run.isEmpty then ⟨String.ofList done.reverse, c, newLine⟩
    else
      let done := run ++ (gap ++ done)
      let stop := c.skip run.length
      let found := plainGap (if stop.head? = some ':' then stop.lookAhead 2 else stop)
      if found.text.isEmpty || found.after.head? = some '#' ||
          (!inFlow && (found.after.column : Int) < indent) then
        ⟨String.ofList done.reverse, found.after, found.newLine⟩
      else plainFrom inFlow indent done found.text found.newLine fuel found.after

def plainScalar (inFlow : Bool) (parent : Int) (c : Cursor) : PlainScalar :=
  plainFrom inFlow (parent + 1) [] [] false (c.left + 1) c

end WorkspaceImport.Yaml
