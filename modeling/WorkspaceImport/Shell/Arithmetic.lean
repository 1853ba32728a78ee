import WorkspaceImport.Shell.Syntax
/-!
Whole numbers in scripts: expressions over numbers of sixty-four bits with the operators of C, among
them those that set variables. An operand that does not count is read and not evaluated.
-/
namespace WorkspaceImport.Shell

inductive ArithmeticFault where
  | malformed (reason : String)
  | badNumber (text : String)
  deriving DecidableEq

structure Calculation where
  rest : List Char
  value : String → String
  changes : List (String × String)

abbrev Calculate := StateT Calculation (Except ArithmeticFault)

namespace Calculate

def wrap (n : Int) : Int :=
  Int.bmod n (Nat.pow 2 64)

def isSpace (c : Char) : Bool :=
  c = ' ' || (9 ≤ c.toNat && c.toNat ≤ 13)

def digitOf? (base : Nat) (c : Char) : Option Nat :=
  let v :=
    if '0' ≤ c ∧ c ≤ '9' then some (c.toNat - 48)
    else if 'a' ≤ c ∧ c ≤ 'f' then some (c.toNat - 87)
    else if 'A' ≤ c ∧ c ≤ 'F' then some (c.toNat - 55)
    else none
  v.filter (· < base)

def numberAt (cs : List Char) : Nat × List Char :=
  let (base, digits) : Nat × List Char :=
    match cs with
    | '0' :: x :: d :: rest =>
      if (x = 'x' ∨ x = 'X') ∧ (digitOf? 16 d).isSome then (16, d :: rest) else (8, cs)
    | '0' :: _ => (8, cs)
    | _ => (10, cs)
  let run := digits.takeWhile fun c => (digitOf? base c).isSome
  (run.foldl (fun n c => n * base + (digitOf? base c).getD 0) 0, digits.drop run.length)

def greatest : Int := Int.pow 2 63 - 1

def numberOf? (s : String) : Option Int :=
  let cs := s.toList.dropWhile isSpace
  let (negative, body) : Bool × List Char :=
    match cs with
    | '-' :: rest => (true, rest)
    | '+' :: rest => (false, rest)
    | _ => (false, cs)
  let (n, after) := if body.head?.any isDigit then numberAt body else (0, cs)
  let value : Int := if negative then -(n : Int) else n
  if !after.all isSpace || value < -greatest - 1 || greatest < value then none
  else some value

def skipSpace : Calculate Unit :=
  modify fun c => { c with rest := c.rest.dropWhile isSpace }

def operators : List String :=
  ["<<=", ">>=", "<<", ">>", "<=", ">=", "==", "!=", "&&", "||", "+=", "-=", "*=", "/=", "%=", "&=",
    "|=", "^=", "<", ">", "+", "-", "*", "/", "%", "&", "|", "^", "=", "!", "~", "?", ":", "(", ")"]

def peek : Calculate (Option String) := do
  skipSpace
  let rest := (← get).rest
  return operators.find? fun o => o.toList.isPrefixOf rest

def skip (operator : String) : Calculate Unit :=
  modify fun c => { c with rest := c.rest.drop operator.length }

def refuse {α : Type} (reason : String) : Calculate α :=
  throw (.malformed reason)

def rank? (operator : String) : Option Nat :=
  match operator with
  | "*" | "/" | "%" => some 10
  | "+" | "-" => some 9
  | "<<" | ">>" => some 8
  | "<" | "<=" | ">" | ">=" => some 7
  | "==" | "!=" => some 6
  | "&" => some 5
  | "^" => some 4
  | "|" => some 3
  | "&&" => some 2
  | "||" => some 1
  | _ => none

def truth (b : Bool) : Int := if b then 1 else 0

def shift (a b : Int) (isLeft : Bool) : Int :=
  let amount := (Int.emod b 64).toNat
  if isLeft then wrap (a * Int.pow 2 amount) else a.fdiv (Int.pow 2 amount)

def bitwise (f : UInt64 → UInt64 → UInt64) (a b : Int) : Int :=
  let unsigned (n : Int) : UInt64 := UInt64.ofNat (Int.emod n (Int.pow 2 64)).toNat
  wrap (f (unsigned a) (unsigned b)).toNat

def apply (counts : Bool) (operator : String) (a b : Int) : Calculate Int :=
  match operator with
  | "*" => pure (wrap (a * b))
  | "/" | "%" =>
    if b = 0 then if counts then refuse "division by zero" else pure 0
    else pure (wrap (if operator = "/" then a.tdiv b else a.tmod b))
  | "+" => pure (wrap (a + b))
  | "-" => pure (wrap (a - b))
  | "<<" => pure (shift a b true)
  | ">>" => pure (shift a b false)
  | "<" => pure (truth (decide (a < b)))
  | "<=" => pure (truth (decide (a ≤ b)))
  | ">" => pure (truth (decide (b < a)))
  | ">=" => pure (truth (decide (b ≤ a)))
  | "==" => pure (truth (decide (a = b)))
  | "!=" => pure (truth (decide (a ≠ b)))
  | "&" => pure (bitwise (· &&& ·) a b)
  | "^" => pure (bitwise (· ^^^ ·) a b)
  | "|" => pure (bitwise (· ||| ·) a b)
  | _ => pure b

def settingOf? (operator : String) : Option String :=
  match operator with
  | "=" => some ""
  | "+=" => some "+"
  | "-=" => some "-"
  | "*=" => some "*"
  | "/=" => some "/"
  | "%=" => some "%"
  | "<<=" => some "<<"
  | ">>=" => some ">>"
  | "&=" => some "&"
  | "|=" => some "|"
  | "^=" => some "^"
  | _ => none

def valueOfName (counts : Bool) (name : String) : Calculate Int := do
  let c ← get
  let text := ((c.changes.find? fun e => e.1 = name).map (·.2)).getD (c.value name)
  if !counts || text.isEmpty then pure 0
  else
    match numberOf? text with
    | some n => pure n
    | none => throw (.badNumber text)

def setVariable (counts : Bool) (name : String) (n : Int) : Calculate Unit :=
  if counts then modify fun c => { c with changes := (name, toString n) :: c.changes } else pure ()

def settingHere? : Calculate (Option (String × String)) := do
  skipSpace
  let before := (← get).rest
  let name := before.takeWhile isNamePart
  modify fun c => { c with rest := before.drop name.length }
  let found ← peek
  match found.bind settingOf? with
  | some operator =>
    if isName name then
      skip (operator ++ "=")
      pure (some (String.ofList name, operator))
    else
      modify fun c => { c with rest := before }
      pure none
  | none =>
    modify fun c => { c with rest := before }
    pure none

mutual

def operand (counts : Bool) : Nat → Calculate Int
  | 0 => refuse "expecting primary"
  | fuel + 1 => do
    match ← peek with
    | some "(" =>
      skip "("
      let n ← expression counts fuel
      if (← peek) = some ")" then
        skip ")"
        pure n
      else refuse "expecting ')'"
    | some "!" =>
      skip "!"
      return truth (decide ((← operand counts fuel) = 0))
    | some "~" =>
      skip "~"
      return wrap (-1 - (← operand counts fuel))
    | some "-" =>
      skip "-"
      return wrap (-(← operand counts fuel))
    | some "+" =>
      skip "+"
      operand counts fuel
    | _ =>
      let rest := (← get).rest
      match rest with
      | c :: _ =>
        if isDigit c then
          let (n, after) := numberAt rest
          modify fun s => { s with rest := after }
          pure (min n greatest)
        else if isNameStart c then
          let name := rest.takeWhile isNamePart
          modify fun s => { s with rest := rest.drop name.length }
          valueOfName counts (String.ofList name)
        else refuse "expecting primary"
      | [] => refuse "expecting primary"
termination_by structural n => n

def operation (counts : Bool) (rank : Nat) : Nat → Calculate Int
  | 0 => refuse "expecting primary"
  | fuel + 1 => do
    let first ← operand counts fuel
    operationFrom counts rank first fuel
termination_by structural n => n

def operationFrom (counts : Bool) (rank : Nat) (first : Int) : Nat → Calculate Int
  | 0 => refuse "expecting primary"
  | fuel + 1 => do
    match ← peek with
    | none => pure first
    | some operator =>
      match rank? operator with
      | none => pure first
      | some r =>
        if r < rank then pure first
        else
          skip operator
          if operator = "&&" then
            let second ← operation (counts && first ≠ 0) (r + 1) fuel
            operationFrom counts rank (truth (first ≠ 0 && second ≠ 0)) fuel
          else if operator = "||" then
            let second ← operation (counts && first = 0) (r + 1) fuel
            operationFrom counts rank (truth (first ≠ 0 || second ≠ 0)) fuel
          else
            let second ← operation counts (r + 1) fuel
            let n ← apply counts operator first second
            operationFrom counts rank n fuel
termination_by structural n => n

def expression (counts : Bool) : Nat → Calculate Int
  | 0 => refuse "expecting primary"
  | fuel + 1 => do
    match ← settingHere? with
    | some (name, operator) =>
      let second ← expression counts fuel
      let n ←
        if operator.isEmpty then pure second
        else do
          let old ← valueOfName counts name
          apply counts operator old second
      setVariable counts name n
      pure n
    | none => choice counts fuel
termination_by structural n => n

def choice (counts : Bool) : Nat → Calculate Int
  | 0 => refuse "expecting primary"
  | fuel + 1 => do
    let test ← operation counts 0 fuel
    if (← peek) = some "?" then
      skip "?"
      let yes ← expression (counts && test ≠ 0) fuel
      if (← peek) = some ":" then
        skip ":"
        let no ← choice (counts && test = 0) fuel
        pure (if test ≠ 0 then yes else no)
      else refuse "expecting ':'"
    else pure test
termination_by structural n => n

end

def whole : Calculate Int := do
  skipSpace
  let rest := (← get).rest
  if rest.isEmpty then pure 0
  else
    let n ← expression true (4 * rest.length + 8)
    skipSpace
    if (← get).rest.isEmpty then pure n else refuse "expecting EOF"

end Calculate

def calculate (value : String → String) (text : List Char) :
    Except ArithmeticFault (Int × List (String × String)) := do
  let (n, c) ← Calculate.whole.run ⟨text, value, []⟩
  pure (n, c.changes)

def ArithmeticFault.message (text : String) : ArithmeticFault → String
  | .malformed reason => "arithmetic expression: " ++ reason ++ ": \x22" ++ text ++ "\x22"
  | .badNumber number => "Illegal number: " ++ number

end WorkspaceImport.Shell
