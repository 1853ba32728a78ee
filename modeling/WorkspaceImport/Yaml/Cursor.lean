/-!
A place in a YAML text: what is left of it, and the line, the column and the number of characters
before it. Lines end with a line feed or one of the three other breaks of YAML. The number of
characters that are left is known without counting them (`Cursor.Counted`). A text may have something
in its way, which is met by whoever comes to the end of what can be read.
-/
namespace WorkspaceImport.Yaml

/-- Why a text is no document of plain data. Most texts are malformed; some are no text at all, and the
others are well formed and hold a value that cannot be made. -/
inductive Fault where
  | malformed
  | undecodable
  | badValue (message : String)
  | tooLarge
  | badWord
  | emptyNumber
  | badMoment
  | wrongKind
  | endless
  deriving DecidableEq

def byteOrderMark : Char := Char.ofNat 0xFEFF

def nextLine : Char := Char.ofNat 0x85

def isBreak (c : Char) : Bool :=
  c = '\n' || c = nextLine || c.toNat = 0x2028 || c.toNat = 0x2029

def isSeparator (c : Char) : Bool :=
  c = ' ' || c = '\t' || isBreak c

def endsWord (c : Option Char) : Bool :=
  c.all isSeparator

def endsLine (c : Option Char) : Bool :=
  c.all isBreak

def isAllowed (c : Char) : Bool :=
  let n := c.toNat
  n = 9 || n = 10 || n = 13 || (32 ≤ n && n ≤ 126) || n = 0x85 || (0xA0 ≤ n && n ≤ 0xD7FF) ||
    (0xE000 ≤ n && n ≤ 0xFFFD) || 0x10000 ≤ n

structure Cursor where
  rest : List Char
  line : Nat
  column : Nat
  index : Nat
  total : Nat
  obstacle : Option Fault

namespace Cursor

def start (cs : List Char) (obstacle : Option Fault) : Cursor :=
  ⟨cs, 0, 0, 0, cs.length, obstacle⟩

def left (c : Cursor) : Nat :=
  c.total - c.index

def peek (c : Cursor) (n : Nat) : Option Char :=
  c.rest[n]?

def head? (c : Cursor) : Option Char :=
  c.rest.head?

def atEnd (c : Cursor) : Bool :=
  c.rest.isEmpty

def next (c : Cursor) : Cursor :=
  match c.rest with
  | [] => c
  | ch :: rest =>
    if isBreak ch then { c with rest := rest, line := c.line + 1, column := 0, index := c.index + 1 }
    else
      { c with
        rest := rest
        column := if ch = byteOrderMark then c.column else c.column + 1
        index := c.index + 1 }

def skip (c : Cursor) : Nat → Cursor
  | 0 => c
  | n + 1 => c.next.skip n

def takeRun (p : Char → Bool) (c : Cursor) : List Char × Cursor :=
  let run := c.rest.takeWhile p
  (run, { c with
    rest := c.rest.drop run.length
    column := c.column + run.countP (· ≠ byteOrderMark)
    index := c.index + run.length })

def met? (c : Cursor) : Option Fault :=
  if c.atEnd then c.obstacle else none

def lookAhead (c : Cursor) (n : Nat) : Cursor :=
  if c.obstacle.isSome && (c.rest.drop (n - 1)).isEmpty then { c with rest := [] } else c

def refusal (c : Cursor) : Fault :=
  c.met?.getD .malformed

def Counted (c : Cursor) : Prop :=
  c.rest.length + c.index = c.total

theorem counted_start (cs : List Char) (obstacle : Option Fault) :
    (start cs obstacle).Counted := by
  simp [Counted, start]

theorem Counted.left_eq {c : Cursor} (h : c.Counted) : c.left = c.rest.length := by
  unfold Counted at h
  unfold left
  omega

theorem Counted.next {c : Cursor} (h : c.Counted) : c.next.Counted := by
  unfold Counted at h ⊢
  unfold Cursor.next
  split
  · exact h
  · rename_i found
    rw [found, List.length_cons] at h
    split <;> simp <;> omega

theorem Counted.takeRun {c : Cursor} (h : c.Counted) (p : Char → Bool) :
    (c.takeRun p).2.Counted := by
  have shorter : (c.rest.takeWhile p).length ≤ c.rest.length :=
    (List.takeWhile_sublist p).length_le
  unfold Counted at h ⊢
  unfold Cursor.takeRun
  simp only [List.length_drop]
  omega

def skipRun (p : Char → Bool) (c : Cursor) : Cursor :=
  (c.takeRun p).2

def skipSpaces (c : Cursor) : Cursor :=
  c.skipRun (· = ' ')

def skipComment (c : Cursor) : Cursor :=
  if c.head? = some '#' then c.skipRun fun ch => !isBreak ch else c

def lineBreak? (c : Cursor) : Option (Char × Cursor) :=
  match c.head? with
  | some ch => if isBreak ch then some (if ch = nextLine then '\n' else ch, c.next) else none
  | none => none

def finishLine (c : Cursor) : Except Fault Cursor :=
  let c := c.skipSpaces.skipComment
  if endsLine c.head? then .ok (match c.lineBreak? with | some (_, after) => after | none => c)
  else .error c.refusal

def isDocumentMark (mark : Char) (c : Cursor) : Bool :=
  c.rest.take 3 = [mark, mark, mark] && endsWord (c.peek 3)

def isSeparatorMark (c : Cursor) : Bool :=
  c.isDocumentMark '-' || c.isDocumentMark '.'

def lookForMark (c : Cursor) : Cursor :=
  let mark := c.rest.take 3
  c.lookAhead (if mark = ['-', '-', '-'] ∨ mark = ['.', '.', '.'] then 4 else 3)

end Cursor

end WorkspaceImport.Yaml
