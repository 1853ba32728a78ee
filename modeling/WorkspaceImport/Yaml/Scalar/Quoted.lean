import WorkspaceImport.Json.Reader
import WorkspaceImport.Yaml.Cursor
/-!
Quoted scalars. Between single quotes only the quote itself is written twice; between double quotes a
backslash begins an escape. A break counts as a blank, and empty lines count as breaks.
-/
namespace WorkspaceImport.Yaml

def escapes : List (Char × Char) := [
  ('0', '\x00'), ('a', '\x07'), ('b', '\x08'), ('t', '\t'), ('\t', '\t'), ('n', '\n'),
  ('v', '\x0b'), ('f', '\x0c'), ('r', '\x0d'), ('e', '\x1b'), (' ', ' '), ('\x22', '\x22'),
  ('\\', '\\'), ('/', '/'), ('N', nextLine), ('_', Char.ofNat 0xA0), ('L', Char.ofNat 0x2028),
  ('P', Char.ofNat 0x2029)]

def escapeLength? (c : Char) : Option Nat :=
  if c = 'x' then some 2 else if c = 'u' then some 4 else if c = 'U' then some 8 else none

def hexNumber? (ds : List Char) : Option Nat :=
  ds.foldlM (fun n d => (Json.hexValue? d).map fun v => n * 16 + v) 0

def charOf (n : Nat) : Except Fault Char :=
  if 0x7FFFFFFF < n then .error .tooLarge
  else if 0x10FFFF < n then .error (.badValue "chr() arg not in range(0x110000)")
  else .ok (Json.unitScalar n)

def readEscape (c : Cursor) : Except Fault (Char × Cursor) :=
  match c.head? with
  | none => .error c.refusal
  | some e =>
    match escapes.find? fun pair => pair.1 = e with
    | some (_, ch) => .ok (ch, c.next)
    | none =>
      match escapeLength? e with
      | none => .error .malformed
      | some n =>
        let digits := (c.rest.drop 1).take n
        match hexNumber? digits with
        | none => .error .malformed
        | some code =>
          if digits.length < n then .error (c.skip n).refusal
          else (charOf code).map fun ch => (ch, c.skip (n + 1))

def isTabOrSpace (c : Char) : Bool :=
  c = ' ' || c = '\t'

def quotedBreaks (done : List Char) : Nat → Cursor → Except Fault (List Char × Cursor)
  | 0, _ => .error .malformed
  | fuel + 1, c =>
    let c := c.lookForMark
    if c.met?.isSome || c.isSeparatorMark then .error c.refusal
    else
      let c := c.skipRun isTabOrSpace
      match c.lineBreak? with
      | none => .ok (done, c)
      | some (b, after) => quotedBreaks (b :: done) fuel after

def quotedFrom (quote : Char) (done : List Char) : Nat → Cursor → Except Fault (String × Cursor)
  | 0, _ => .error .malformed
  | fuel + 1, c =>
    match c.head? with
    | none => .error c.refusal
    | some ch =>
      if ch = quote then
        if quote = '\x27' && c.peek 1 = some quote then
          quotedFrom quote (quote :: done) fuel (c.skip 2)
        else .ok (String.ofList done.reverse, c.next)
      else if ch = '\\' && quote = '\x22' then
        let after := c.next
        match after.lineBreak? with
        | some (_, after) =>
          match quotedBreaks [] fuel after with
          | .error fault => .error fault
          | .ok (breaks, after) => quotedFrom quote (breaks ++ done) fuel after
        | none =>
          match readEscape after with
          | .error fault => .error fault
          | .ok (ch, after) => quotedFrom quote (ch :: done) fuel after
      else if isSeparator ch then
        let (blanks, after) := c.takeRun isTabOrSpace
        match after.lineBreak? with
        | none =>
          if after.atEnd then .error after.refusal
          else quotedFrom quote (blanks.reverse ++ done) fuel after
        | some (b, after) =>
          match quotedBreaks [] fuel after with
          | .error fault => .error fault
          | .ok (breaks, after) =>
            let folded := if b ≠ '\n' then [b] else if breaks.isEmpty then [' '] else []
            quotedFrom quote (breaks ++ folded ++ done) fuel after
      else quotedFrom quote (ch :: done) fuel c.next

def quotedScalar (c : Cursor) : Except Fault (String × Cursor) :=
  match c.head? with
  | some quote => quotedFrom quote [] (c.left + 1) c.next
  | none => .error .malformed

end WorkspaceImport.Yaml
