/-!
Patterns of the command shell. A star stands for any characters, a question mark for one, and brackets
for one of some characters; what was quoted stands for itself.
-/
namespace WorkspaceImport.Shell

abbrev Marked := Char × Bool

inductive BracketItem where
  | range (first last : Char)
  | named (name : String)
  deriving DecidableEq

inductive PatternItem where
  | char (c : Char)
  | any
  | star
  | bracket (isNegated : Bool) (items : List BracketItem)
  deriving DecidableEq

abbrev Pattern := List PatternItem

def isLetter (c : Char) : Bool :=
  ('a' ≤ c && c ≤ 'z') || ('A' ≤ c && c ≤ 'Z')

def isControl (c : Char) : Bool :=
  c.toNat < 32 || c.toNat = 127

def isOfClass (name : String) (c : Char) : Bool :=
  let isDigit := '0' ≤ c && c ≤ '9'
  let isPrinted := 32 ≤ c.toNat && c.toNat < 127
  match name with
  | "alpha" => isLetter c
  | "digit" => isDigit
  | "alnum" => isLetter c || isDigit
  | "upper" => 'A' ≤ c && c ≤ 'Z'
  | "lower" => 'a' ≤ c && c ≤ 'z'
  | "space" => c = ' ' || (9 ≤ c.toNat && c.toNat ≤ 13)
  | "blank" => c = ' ' || c = '\t'
  | "punct" => isPrinted && !(isLetter c || isDigit || c = ' ')
  | "print" => isPrinted
  | "graph" => isPrinted && c ≠ ' '
  | "cntrl" => isControl c
  | "xdigit" => isDigit || ('a' ≤ c && c ≤ 'f') || ('A' ≤ c && c ≤ 'F')
  | _ => false

def BracketItem.accepts (c : Char) : BracketItem → Bool
  | .range first last => first ≤ c && c ≤ last
  | .named name => isOfClass name c

def PatternItem.accepts (c : Char) : PatternItem → Bool
  | .char d => c = d
  | .any | .star => true
  | .bracket isNegated items => items.any (BracketItem.accepts c) != isNegated

namespace Pattern

def className? : List Marked → Option (String × List Marked) := fun cs =>
  let name := cs.takeWhile fun m => isLetter m.1
  match cs.drop name.length with
  | (':', _) :: (']', _) :: rest => some (String.ofList (name.map (·.1)), rest)
  | _ => none

def bracketItems (isFirst : Bool) (done : List BracketItem) :
    Nat → List Marked → Option (List BracketItem × List Marked)
  | 0, _ => none
  | _, [] => none
  | fuel + 1, (c, isQuoted) :: rest =>
    if c = ']' && !isQuoted && !isFirst then some (done.reverse, rest)
    else
      match c, isQuoted, rest with
      | '[', false, (':', _) :: more =>
        match className? more with
        | some (name, after) => bracketItems false (.named name :: done) fuel after
        | none => bracketItems false (.range '[' '[' :: done) fuel rest
      | _, _, _ =>
        let (c, rest) :=
          match c, isQuoted, rest with
          | '\\', false, (d, _) :: more => (d, more)
          | _, _, _ => (c, rest)
        match rest with
        | ('-', false) :: (d, q) :: more =>
          if d = ']' && !q then bracketItems false (.range c c :: done) fuel rest
          else bracketItems false (.range c d :: done) fuel more
        | _ => bracketItems false (.range c c :: done) fuel rest

def ofMarked : Nat → List Marked → Pattern
  | 0, _ => []
  | _, [] => []
  | fuel + 1, (c, isQuoted) :: rest =>
    if isQuoted then .char c :: ofMarked fuel rest
    else
      match c with
      | '*' => .star :: ofMarked fuel rest
      | '?' => .any :: ofMarked fuel rest
      | '\\' =>
        match rest with
        | (d, _) :: more => .char d :: ofMarked fuel more
        | [] => [.char '\\']
      | '[' =>
        let (isNegated, inner) : Bool × List Marked :=
          match rest with
          | ('!', false) :: more => (true, more)
          | ('^', false) :: more => (true, more)
          | _ => (false, rest)
        match bracketItems true [] (inner.length + 1) inner with
        | some (items, after) => .bracket isNegated items :: ofMarked fuel after
        | none => .char '[' :: ofMarked fuel rest
      | c => .char c :: ofMarked fuel rest

def accepts : Pattern → List Char → Bool
  | [], cs => cs.isEmpty
  | .star :: ps, cs =>
    match cs with
    | [] => accepts ps []
    | c :: rest => accepts ps (c :: rest) || accepts (.star :: ps) rest
  | p :: ps, c :: rest => p.accepts c && accepts ps rest
  | _ :: _, [] => false
termination_by ps cs => ps.length + cs.length

def frontLength? (p : Pattern) (isLongest : Bool) (cs : List Char) : Option Nat :=
  let lengths := List.range (cs.length + 1)
  (if isLongest then lengths.reverse else lengths).find? fun n => accepts p (cs.take n)

def trim (p : Pattern) (atEnd isLongest : Bool) (cs : List Char) : List Char :=
  if atEnd then
    let lengths := List.range (cs.length + 1)
    let found := (if isLongest then lengths else lengths.reverse).find? fun n =>
      accepts p (cs.drop n)
    match found with
    | some n => cs.take n
    | none => cs
  else
    match frontLength? p isLongest cs with
    | some n => cs.drop n
    | none => cs

def isPattern (cs : List Marked) : Bool :=
  cs.any fun m => !m.2 && (m.1 = '*' || m.1 = '?' || m.1 = '[')

end Pattern

end WorkspaceImport.Shell
