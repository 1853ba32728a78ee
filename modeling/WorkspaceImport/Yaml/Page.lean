import WorkspaceImport.Text.Quoted
import WorkspaceImport.Yaml.Scalar.Style
/-!
A YAML text while it is written: what there is so far, and what the place at its end is like. Lines
are folded at spaces that stand after the eightieth column.
-/
namespace WorkspaceImport.Yaml

def foldColumn : Nat := 80

structure Page where
  written : List Char
  column : Nat
  isSpaced : Bool
  isIndented : Bool

namespace Page

def blank : Page := ⟨[], 0, true, true⟩

def text (p : Page) : String :=
  String.ofList p.written.reverse

def write (p : Page) (cs : List Char) : Page :=
  { p with written := cs.reverse ++ p.written, column := p.column + cs.length }

def breakLine (p : Page) (c : Char) : Page :=
  ⟨c :: p.written, 0, true, true⟩

def goTo (p : Page) (indent : Nat) : Page :=
  let p :=
    if !p.isIndented || indent < p.column || (p.column = indent && !p.isSpaced) then p.breakLine '\n'
    else p
  if p.column < indent then
    { p.write (List.replicate (indent - p.column) ' ') with isSpaced := true }
  else p

def endIndent (p : Page) : Page :=
  { p with isSpaced := false, isIndented := false }

def space (p : Page) : Page :=
  if p.isSpaced then p else p.write [' ']

def mark (p : Page) (m : String) : Page :=
  (p.space.write m.toList).endIndent

def itemMark (p : Page) (m : Char) : Page :=
  { p.space.write [m] with isSpaced := false }

def fold (p : Page) (indent : Nat) : Page :=
  (p.goTo indent).endIndent

end Page

inductive RunKind where
  | spaces
  | breaks
  | word
  deriving DecidableEq

def RunKind.of (c : Char) : RunKind :=
  if c = ' ' then .spaces else if isBreak c then .breaks else .word

def runs : List Char → List (RunKind × List Char)
  | [] => []
  | c :: rest =>
    match runs rest with
    | (kind, run) :: more =>
      if kind = RunKind.of c then (kind, c :: run) :: more else (RunKind.of c, [c]) :: (kind, run) :: more
    | [] => [(RunKind.of c, [c])]

namespace Page

def writeSpaces (p : Page) (indent : Nat) (mayFold : Bool) (run : List Char) : Page :=
  if mayFold && run.length = 1 && foldColumn < p.column then p.fold indent else p.write run

def writeBreaks (p : Page) (indent : Nat) (run : List Char) : Page :=
  let p := if run.head? = some '\n' then p.breakLine '\n' else p
  (run.foldl breakLine p).goTo indent

/-- The runs of a text; `escape` says how a character of a word is written, and spaces at either end
are kept. -/
def writeRuns (indent : Nat) (mayFold : Bool) (escape : Char → List Char) (isFirst : Bool) :
    List (RunKind × List Char) → Page → Page
  | [], p => p
  | (kind, run) :: rest, p =>
    writeRuns indent mayFold escape false rest <|
      match kind with
      | .spaces => p.writeSpaces indent (mayFold && !isFirst && !rest.isEmpty) run
      | .breaks => p.writeBreaks indent run
      | .word => p.write (run.flatMap escape)

def writePlain (p : Page) (indent : Nat) (mayFold : Bool) (cs : List Char) : Page :=
  writeRuns indent mayFold (fun c => [c]) true (runs cs) p.space.endIndent

def writeSingle (p : Page) (indent : Nat) (mayFold : Bool) (cs : List Char) : Page :=
  let quote (c : Char) : List Char := if c = '\x27' then [c, c] else [c]
  ((writeRuns indent mayFold quote true (runs cs) (p.mark "'")).write ['\x27']).endIndent

end Page

def shortEscapes : List (Char × Char) :=
  [('\x00', '0'), ('\x07', 'a'), ('\x08', 'b'), ('\t', 't'), ('\n', 'n'), ('\x0b', 'v'),
    ('\x0c', 'f'), ('\r', 'r'), ('\x1b', 'e'), ('\x22', '\x22'), ('\\', '\\'), (nextLine, 'N'),
    (Char.ofNat 0xA0, '_'), (Char.ofNat 0x2028, 'L'), (Char.ofNat 0x2029, 'P')]

def isVerbatim (c : Char) : Bool :=
  let n := c.toNat
  ((32 ≤ n && n ≤ 126) || (0xA0 ≤ n && n ≤ 0xD7FF) || (0xE000 ≤ n && n ≤ 0xFFFD)) &&
    !(c = '\x22' || c = '\\' || isBreak c || c = byteOrderMark)

def escapeDouble (c : Char) : List Char :=
  let digits (width : Nat) := (Text.hexDigits width c.toNat).map Char.toUpper
  match shortEscapes.find? (·.1 = c) with
  | some e => ['\\', e.2]
  | none =>
    if c.toNat < 0x100 then '\\' :: 'x' :: digits 2
    else if c.toNat < 0x10000 then '\\' :: 'u' :: digits 4
    else '\\' :: 'U' :: digits 8

namespace Page

/-- Folding between double quotes: a backslash ends the line, and another one keeps a space at the
front of the next. -/
def foldDouble (p : Page) (indent : Nat) (next : Option Char) : Page :=
  let p := (p.write ['\\']).fold indent
  if next = some ' ' then p.write ['\\'] else p

/-- The rest of a text between double quotes. `word` was read and is not written yet, its last
character first. A line may be folded before a space and after an escape. -/
def writeDoubleRest (indent : Nat) (mayFold isFirst : Bool) (word : List Char) :
    List Char → Page → Page
  | [], p => p.write word.reverse
  | c :: rest, p =>
    let atFold := mayFold && !isFirst && !rest.isEmpty
    if isVerbatim c then
      if atFold && (c = ' ' || word.isEmpty) && foldColumn < p.column + word.length then
        writeDoubleRest indent mayFold false [c] rest
          ((p.write word.reverse).foldDouble indent (some c))
      else writeDoubleRest indent mayFold false (c :: word) rest p
    else
      let p := p.write (word.reverse ++ escapeDouble c)
      writeDoubleRest indent mayFold false [] rest
        (if atFold && foldColumn + 1 < p.column then p.foldDouble indent rest.head? else p)

def writeDouble (p : Page) (indent : Nat) (mayFold : Bool) (cs : List Char) : Page :=
  ((writeDoubleRest indent mayFold true [] cs (p.mark "\"")).write ['\x22']).endIndent

def writeScalar (p : Page) (indent : Nat) (mayFold : Bool) (style : ScalarStyle) (cs : List Char) :
    Page :=
  match style with
  | .plain => p.writePlain indent mayFold cs
  | .single => p.writeSingle indent mayFold cs
  | .double => p.writeDouble indent mayFold cs

end Page

end WorkspaceImport.Yaml
