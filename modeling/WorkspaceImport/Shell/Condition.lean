import WorkspaceImport.Shell.Arithmetic
import WorkspaceImport.Shell.State
/-!
Conditions on texts, numbers and files. A word is an operator or an operand by what stands around it: an
operator of one operand that has none after it, or has an operator of two there, is an operand itself.
-/
namespace WorkspaceImport.Shell

inductive ConditionFault where
  | noBracket
  | noNumber (word : String)
  | noOperand (operator : String)
  | noClosing
  | surplus (word : String)
  deriving DecidableEq

def ConditionFault.message : ConditionFault → String
  | .noBracket => "missing ]"
  | .noNumber word => "Illegal number: " ++ word
  | .noOperand operator => operator ++ ": argument expected"
  | .noClosing => "closing paren expected"
  | .surplus word => if word.isEmpty then "unexpected operator" else word ++ ": unexpected operator"

inductive ConditionToken where
  | ended
  | operand
  | unary (operator : String)
  | binary (operator : String)
  | negation
  | both
  | either
  | opening
  | closing
  deriving DecidableEq

namespace Condition

def unaryOperators : List String :=
  ["-r", "-w", "-x", "-e", "-f", "-d", "-c", "-b", "-p", "-u", "-g", "-k", "-s", "-t", "-z", "-n",
    "-h", "-O", "-G", "-L", "-S"]

def binaryOperators : List String :=
  ["=", "!=", "<", ">", "-eq", "-ne", "-ge", "-gt", "-le", "-lt", "-nt", "-ot", "-ef"]

def isBinary (word : String) : Bool :=
  binaryOperators.contains word

def tokenOf : List String → ConditionToken
  | [] => .ended
  | word :: rest =>
    if unaryOperators.contains word then
      match rest with
      | [] => .operand
      | [_] => .unary word
      | next :: _ => if isBinary next then .operand else .unary word
    else if isBinary word then .binary word
    else
      match word with
      | "!" => .negation
      | "-a" => .both
      | "-o" => .either
      | "(" => if rest.isEmpty then .operand else .opening
      | ")" => .closing
      | _ => .operand

abbrev Check := StateT (List String) (Except ConditionFault)

def number (word : String) : Except ConditionFault Int :=
  let cs := word.toList.dropWhile Calculate.isSpace
  let (negative, body) : Bool × List Char :=
    match cs with
    | '-' :: rest => (true, rest)
    | '+' :: rest => (false, rest)
    | _ => (false, cs)
  let digits := body.takeWhile isDigit
  let n : Int := digits.foldl (fun n c => n * 10 + (c.toNat - 48)) 0
  let value := if negative then -n else n
  if digits.isEmpty || !(body.drop digits.length).all Calculate.isSpace ||
      value < -Calculate.greatest - 1 || Calculate.greatest < value then .error (.noNumber word)
  else .ok value

def ofFile (s : State) (operator path : String) : Bool :=
  match s.find path with
  | .error _ => false
  | .ok (_, e) =>
    match operator with
    | "-e" | "-r" | "-w" | "-O" | "-G" => true
    | "-f" => !e.isDirectory
    | "-d" | "-x" => e.isDirectory
    | "-s" => e.isDirectory || 0 < e.size
    | _ => false

def compare (s : State) (operator a b : String) : Except ConditionFault Bool := do
  let numbers (holds : Int → Int → Bool) : Except ConditionFault Bool := do
    let m ← number a
    let n ← number b
    pure (holds m n)
  match operator with
  | "=" => pure (a == b)
  | "!=" => pure (a != b)
  | "<" => pure (decide (a < b))
  | ">" => pure (decide (b < a))
  | "-eq" => numbers fun m n => m == n
  | "-ne" => numbers fun m n => m != n
  | "-ge" => numbers fun m n => decide (n ≤ m)
  | "-gt" => numbers fun m n => decide (n < m)
  | "-le" => numbers fun m n => decide (m ≤ n)
  | "-lt" => numbers fun m n => decide (m < n)
  | "-ef" =>
    match s.find a, s.find b with
    | .ok (p, _), .ok (q, _) => pure (p == q)
    | _, _ => pure false
  | _ => pure false

mutual

def either (s : State) (token : ConditionToken) : Nat → Check Bool
  | 0 => pure false
  | fuel + 1 => do
    let first ← both s token fuel
    let words ← get
    if tokenOf words.tail = .either then
      set (words.drop 2)
      let second ← either s (tokenOf (words.drop 2)) fuel
      pure (first || second)
    else pure first
termination_by structural n => n

def both (s : State) (token : ConditionToken) : Nat → Check Bool
  | 0 => pure false
  | fuel + 1 => do
    let first ← negated s token fuel
    let words ← get
    if tokenOf words.tail = .both then
      set (words.drop 2)
      let second ← both s (tokenOf (words.drop 2)) fuel
      pure (first && second)
    else pure first
termination_by structural n => n

def negated (s : State) (token : ConditionToken) : Nat → Check Bool
  | 0 => pure false
  | fuel + 1 => do
    if token = .negation then
      let words ← get
      let next := tokenOf words.tail
      if next ≠ .ended then set words.tail
      return !(← negated s next fuel)
    else primary s token fuel
termination_by structural n => n

def primary (s : State) (token : ConditionToken) : Nat → Check Bool
  | 0 => pure false
  | fuel + 1 => do
    let words ← get
    match token with
    | .ended => pure false
    | .opening =>
      set words.tail
      let next := tokenOf words.tail
      if next = .closing then pure false
      else
        let holds ← either s next fuel
        let words ← get
        set words.tail
        if tokenOf words.tail = .closing then pure holds else throw .noClosing
    | .unary operator =>
      match words.tail with
      | [] => throw (.noOperand operator)
      | word :: _ =>
        set words.tail
        match operator with
        | "-z" => pure word.isEmpty
        | "-n" => pure !word.isEmpty
        | "-t" =>
          let _ ← number word
          pure false
        | _ => pure (ofFile s operator word)
    | _ =>
      match tokenOf words.tail, words with
      | .binary operator, a :: _ :: b :: rest =>
        set (b :: rest)
        compare s operator a b
      | .binary operator, _ => throw (.noOperand operator)
      | _, a :: _ => pure !a.isEmpty
      | _, [] => pure false
termination_by structural n => n

end

def evaluate (s : State) (words : List String) (token : ConditionToken) :
    Except ConditionFault Bool := do
  let (holds, left) ← (either s token (8 * words.length + 8)).run words
  match left with
  | word :: _ :: _ => throw (.surplus word)
  | _ => pure holds

def holds (s : State) : List String → Except ConditionFault Bool
  | [] => pure false
  | [a, op, b] =>
    if isBinary op then evaluate s [a, op, b] .operand
    else if a = "(" && b = ")" then evaluate s [op] (tokenOf [op])
    else if a = "!" then return !(← holds s [op, b])
    else evaluate s [a, op, b] (tokenOf [a, op, b])
  | [a, b, c, d] =>
    if a = "(" && d = ")" then evaluate s [b, c] (tokenOf [b, c])
    else if a = "!" then return !(← holds s [b, c, d])
    else evaluate s [a, b, c, d] (tokenOf [a, b, c, d])
  | words => evaluate s words (tokenOf words)

def unbracketed (words : List String) : Except ConditionFault (List String) :=
  match words.getLast? with
  | some last => if last.startsWith "]" then .ok words.dropLast else .error .noBracket
  | none => .error .noBracket

end Condition

end WorkspaceImport.Shell
