import WorkspaceImport.Shell.Pattern
import WorkspaceImport.Shell.Syntax
/-!
Regular expressions in the two spellings that programs of the system have. Of the matches that begin
first the longest one counts.
-/
namespace WorkspaceImport.Shell

inductive Regex where
  | empty
  | char (c : Char)
  | any
  | bracket (isNegated : Bool) (items : List BracketItem)
  | lineStart
  | lineEnd
  | edge (atStart atEnd : Bool)
  | noEdge
  | seq (a b : Regex)
  | alt (a b : Regex)
  | repeated (r : Regex) (least : Nat) (most : Option Nat)
  | group (number : Nat) (r : Regex)
  | again (number : Nat)

inductive RegexFault where
  | openBracket
  | openGroup
  | closedGroup
  | badInterval
  | openInterval
  | trailingBackslash
  | badReference
  | badClass
  | nothingToRepeat
  | badRange
  deriving DecidableEq

def RegexFault.message : RegexFault → String
  | .openBracket => "Unmatched [, [^, [:, [., or [="
  | .openGroup => "Unmatched ( or \\("
  | .closedGroup => "Unmatched ) or \\)"
  | .badInterval => "Invalid content of \\\x7b\\\x7d"
  | .openInterval => "Unmatched \\\x7b"
  | .trailingBackslash => "Trailing backslash"
  | .badReference => "Invalid back reference"
  | .badClass => "Invalid character class name"
  | .nothingToRepeat => "Invalid preceding regular expression"
  | .badRange => "Invalid range end"

namespace Regex

/-! Reading -/

structure Reading where
  rest : List Char
  groups : Nat
  isExtended : Bool

abbrev Read := StateT Reading (Except RegexFault)

def operatorAt (isExtended : Bool) : List Char → Option (Char × List Char)
  | '\\' :: c :: rest =>
    if !isExtended && ['(', ')', '\x7b', '\x7d', '|', '+', '?'].contains c then some (c, rest)
    else none
  | c :: rest =>
    if isExtended && ['(', ')', '\x7b', '|', '+', '?', '*'].contains c then some (c, rest)
    else if c = '*' then some (c, rest)
    else none
  | [] => none

def wordClass (isNegated : Bool) : Regex :=
  .bracket isNegated [.named "alnum", .range '_' '_']

def spaceClass (isNegated : Bool) : Regex :=
  .bracket isNegated [.named "space"]

def items (isFirst : Bool) (done : List BracketItem) :
    Nat → List Char → Except RegexFault (List BracketItem × List Char)
  | 0, _ => .error .openBracket
  | _, [] => .error .openBracket
  | fuel + 1, c :: rest =>
    if c = ']' && !isFirst then .ok (done.reverse, rest)
    else
      match c, rest with
      | '[', ':' :: more =>
        let name := more.takeWhile isLetter
        match more.drop name.length with
        | ':' :: ']' :: after => items false (.named (String.ofList name) :: done) fuel after
        | _ => .error .openBracket
      | '[', '=' :: d :: '=' :: ']' :: after => items false (.range d d :: done) fuel after
      | '[', '.' :: d :: '.' :: ']' :: after => items false (.range d d :: done) fuel after
      | _, '-' :: d :: after =>
        if d = ']' then items false (.range c c :: done) fuel rest
        else if d < c then .error .badRange
        else items false (.range c d :: done) fuel after
      | _, _ => items false (.range c c :: done) fuel rest

def bounds (isExtended : Bool) (cs : List Char) :
    Except RegexFault (Nat × Option Nat × List Char) :=
  let number (ds : List Char) : Nat := ds.foldl (fun n c => n * 10 + (c.toNat - 48)) 0
  let least := cs.takeWhile isDigit
  let rest := cs.drop least.length
  let (most, rest) : Option (Option Nat) × List Char :=
    match rest with
    | ',' :: more =>
      let ds := more.takeWhile isDigit
      (some (if ds.isEmpty then none else some (number ds)), more.drop ds.length)
    | _ => (none, rest)
  let closed : Option (List Char) :=
    match isExtended, rest with
    | true, '\x7d' :: after => some after
    | false, '\\' :: '\x7d' :: after => some after
    | _, _ => none
  match closed with
  | none => .error (if rest.isEmpty then .openInterval else .badInterval)
  | some after =>
    if least.isEmpty && most.isNone then .error .badInterval
    else
      let low := number least
      let high := match most with | none => some low | some m => m
      if high.any (· < low) then .error .badInterval else .ok (low, high, after)

def join (done : Option Regex) (r : Regex) : Regex :=
  match done with
  | none => r
  | some d => .seq d r

mutual

def choices (depth : Nat) : Nat → Read Regex
  | 0 => throw .openGroup
  | fuel + 1 => do
    let first ← branch depth none fuel
    let s ← get
    match operatorAt s.isExtended s.rest with
    | some ('|', rest) =>
      set { s with rest := rest }
      let second ← choices depth fuel
      pure (.alt first second)
    | _ => pure first
termination_by structural n => n

def branch (depth : Nat) (done : Option Regex) : Nat → Read Regex
  | 0 => throw .openGroup
  | fuel + 1 => do
    let s ← get
    match s.rest with
    | [] => pure (done.getD .empty)
    | _ =>
      match operatorAt s.isExtended s.rest with
      | some ('|', _) => pure (done.getD .empty)
      | some (')', rest) =>
        if 0 < depth then pure (done.getD .empty)
        else if s.isExtended then
          set { s with rest := rest }
          branch depth (some (join done (.char ')'))) fuel
        else throw .closedGroup
      | _ =>
        let first ← atom depth done.isNone fuel
        let r ← suffixes first fuel
        branch depth (some (join done r)) fuel
termination_by structural n => n

def suffixes (r : Regex) : Nat → Read Regex
  | 0 => throw .openGroup
  | fuel + 1 => do
    let s ← get
    match operatorAt s.isExtended s.rest with
    | some ('*', rest) =>
      set { s with rest := rest }
      suffixes (.repeated r 0 none) fuel
    | some ('+', rest) =>
      set { s with rest := rest }
      suffixes (.repeated r 1 none) fuel
    | some ('?', rest) =>
      set { s with rest := rest }
      suffixes (.repeated r 0 (some 1)) fuel
    | some ('\x7b', rest) =>
      match bounds s.isExtended rest with
      | .ok (least, most, after) =>
        set { s with rest := after }
        suffixes (.repeated r least most) fuel
      | .error fault => if s.isExtended then pure r else throw fault
    | _ => pure r
termination_by structural n => n

def atom (depth : Nat) (isFirst : Bool) : Nat → Read Regex
  | 0 => throw .openGroup
  | fuel + 1 => do
    let s ← get
    match operatorAt s.isExtended s.rest with
    | some ('(', rest) =>
      let number := s.groups + 1
      set { s with rest := rest, groups := number }
      let inner ← choices (depth + 1) fuel
      let t ← get
      match operatorAt t.isExtended t.rest with
      | some (')', rest) =>
        set { t with rest := rest }
        pure (.group number inner)
      | _ => throw .openGroup
    | some (c, rest) =>
      if s.isExtended && !isFirst then throw .nothingToRepeat
      else if !s.isExtended && c ≠ '*' && !isFirst then throw .nothingToRepeat
      else
        set { s with rest := rest }
        if s.isExtended && c ≠ '\x7b' then pure .empty else pure (.char c)
    | none =>
      match s.rest with
      | '.' :: rest =>
        set { s with rest := rest }
        pure .any
      | '[' :: rest =>
        let (isNegated, inner) : Bool × List Char :=
          match rest with
          | '^' :: more => (true, more)
          | _ => (false, rest)
        match items true [] (inner.length + 1) inner with
        | .ok (found, after) =>
          set { s with rest := after }
          pure (.bracket isNegated found)
        | .error fault => throw fault
      | '^' :: rest =>
        set { s with rest := rest }
        if s.isExtended || isFirst then pure .lineStart else pure (.char '^')
      | '$' :: rest =>
        set { s with rest := rest }
        let isLast :=
          rest.isEmpty ||
            (match operatorAt s.isExtended rest with
              | some (c, _) => c = '|' || (c = ')' && 0 < depth)
              | none => false)
        if s.isExtended || isLast then pure .lineEnd else pure (.char '$')
      | '\\' :: c :: rest =>
        set { s with rest := rest }
        match c with
        | 'w' => pure (wordClass false)
        | 'W' => pure (wordClass true)
        | 's' => pure (spaceClass false)
        | 'S' => pure (spaceClass true)
        | '<' => pure (.edge true false)
        | '>' => pure (.edge false true)
        | 'b' => pure (.edge true true)
        | 'B' => pure .noEdge
        | '\x60' => pure .lineStart
        | '\x27' => pure .lineEnd
        | 'n' => pure (.char '\n')
        | 't' => pure (.char '\t')
        | c =>
          if '1' ≤ c && c ≤ '9' then
            let n := c.toNat - 48
            if s.groups < n then throw .badReference else pure (.again n)
          else pure (.char c)
      | ['\\'] => throw .trailingBackslash
      | c :: rest =>
        set { s with rest := rest }
        pure (.char c)
      | [] => pure .empty
termination_by structural n => n

end
def ofText (isExtended : Bool) (s : String) : Except RegexFault (Regex × Nat) := do
  let (r, state) ← (choices 0 (8 * s.length + 16)).run ⟨s.toList, 0, isExtended⟩
  if state.rest.isEmpty then pure (r, state.groups) else throw .closedGroup

def literal (s : String) : Regex :=
  s.toList.foldr (fun c r => .seq (.char c) r) .empty

/-! Matching -/

structure Spot where
  position : Nat
  groups : List (Nat × Nat × Nat)

structure Subject where
  text : Array Char
  ignoresCase : Bool

namespace Subject

def at? (s : Subject) (n : Nat) : Option Char :=
  s.text[n]?

def isWordAt (s : Subject) (n : Nat) : Bool :=
  (s.at? n).any isNamePart

def isEdge (s : Subject) (n : Nat) (atStart atEnd : Bool) : Bool :=
  let before := 0 < n && s.isWordAt (n - 1)
  let after := s.isWordAt n
  (atStart && !before && after) || (atEnd && before && !after)

def same (s : Subject) (a b : Char) : Bool :=
  a = b || (s.ignoresCase && a.toLower = b.toLower)

def accepts (s : Subject) (isNegated : Bool) (items : List BracketItem) (c : Char) : Bool :=
  let found :=
    if s.ignoresCase then
      items.any fun i => i.accepts c || i.accepts c.toLower || i.accepts c.toUpper
    else items.any (BracketItem.accepts c)
  found != isNegated

end Subject

def distinct (seen : List Nat) : List Spot → List Spot
  | [] => []
  | s :: rest =>
    if seen.contains s.position then distinct seen rest
    else s :: distinct (s.position :: seen) rest

mutual

def ends (s : Subject) (r : Regex) (spot : Spot) : Nat → List Spot
  | 0 => []
  | fuel + 1 =>
    let onward : List Spot := [{ spot with position := spot.position + 1 }]
    match r with
    | .empty => [spot]
    | .char c => if (s.at? spot.position).any (s.same c) then onward else []
    | .any => if (s.at? spot.position).isSome then onward else []
    | .bracket isNegated items =>
      if (s.at? spot.position).any (s.accepts isNegated items) then onward else []
    | .lineStart => if spot.position = 0 then [spot] else []
    | .lineEnd => if spot.position = s.text.size then [spot] else []
    | .edge atStart atEnd => if s.isEdge spot.position atStart atEnd then [spot] else []
    | .noEdge => if s.isEdge spot.position true true then [] else [spot]
    | .seq a b => distinct [] ((ends s a spot fuel).flatMap fun e => ends s b e fuel)
    | .alt a b => distinct [] (ends s a spot fuel ++ ends s b spot fuel)
    | .repeated r least most => distinct [] (turns s r least most 0 spot fuel)
    | .group number r =>
      (ends s r spot fuel).map fun e =>
        { e with groups := (number, spot.position, e.position) ::
            e.groups.filter (·.1 ≠ number) }
    | .again number =>
      match spot.groups.find? (·.1 = number) with
      | none => []
      | some (_, first, last) =>
        let n := last - first
        let isSame := (List.range n).all fun i =>
          match s.at? (first + i), s.at? (spot.position + i) with
          | some a, some b => s.same a b
          | _, _ => false
        if isSame then [{ spot with position := spot.position + n }] else []
termination_by structural n => n

def turns (s : Subject) (r : Regex) (least : Nat) (most : Option Nat) (count : Nat) (spot : Spot) :
    Nat → List Spot
  | 0 => []
  | fuel + 1 =>
    let mayGoOn : Bool := match most with | some m => decide (count < m) | none => true
    let further :=
      if mayGoOn then
        let next := (ends s r spot fuel).filter fun e =>
          spot.position < e.position || count < least
        next.flatMap fun e => turns s r least most (count + 1) e fuel
      else []
    if count < least then further else further ++ [spot]
termination_by structural n => n

end

def longest : List Spot → Option Spot
  | [] => none
  | s :: rest =>
    match longest rest with
    | some t => if s.position < t.position then some t else some s
    | none => some s

def stepsFor (s : Subject) : Nat :=
  1000 + 4 * s.text.size

def find? (s : Subject) (r : Regex) : Nat → Nat → Option (Nat × Spot)
  | 0, _ => none
  | fuel + 1, n =>
    if s.text.size < n then none
    else
      match longest (ends s r ⟨n, []⟩ (stepsFor s)) with
      | some spot => some (n, spot)
      | none => find? s r fuel (n + 1)

def search (r : Regex) (s : Subject) (start : Nat) : Option (Nat × Spot) :=
  find? s r (s.text.size + 2) start

end Regex

end WorkspaceImport.Shell
