import WorkspaceImport.Number.Places
import WorkspaceImport.Shell.Arithmetic
import WorkspaceImport.Shell.Quoting
/-!
Printing by a format. A format is used again as long as there are words for its directives; a directive
without a word takes an empty one. Numbers are exact until they are rounded once, to as many bits as the
printer keeps.
-/
namespace WorkspaceImport.Shell

/-- What has been printed so far, with the notes between it, and the words that are left. -/
structure Printing where
  printer : Printer
  isUnicode : Bool
  words : List String
  takesWords : Bool
  out : List Char
  done : List (Nat × String)
  isWrong : Bool

inductive PrintEnd where
  | stopped
  | failed

abbrev Print := EStateM PrintEnd Printing

namespace Print

def emit (cs : List Char) : Print Unit :=
  modify fun p => { p with out := cs.reverse ++ p.out }

def note (text : String) : Print Unit :=
  modify fun p => { p with
    done := (2, text) :: (1, String.ofList p.out.reverse) :: p.done
    out := [] }

def fail {α : Type} (text : String) : Print α := do
  note text
  modify fun p => { p with isWrong := true }
  throw .failed

def nextWord? : Print (Option String) :=
  modifyGet fun p => (p.words.head?, { p with words := p.words.tail, takesWords := true })

def nextWord : Print String := do
  return (← nextWord?).getD ""

def wrongNumber (word shellReason programReason : String) : Print Unit := do
  let p ← get
  match p.printer with
  | .shell => note (word ++ ": " ++ shellReason)
  | _ => note (quoteMarked p.isUnicode word ++ ": " ++ programReason)
  modify fun p => { p with isWrong := true }

def notNumber (word : String) : Print Unit :=
  wrongNumber word "expected numeric value" "expected a numeric value"

def notConverted (word : String) : Print Unit :=
  wrongNumber word "not completely converted" "value not completely converted"

def outOfRange (word : String) : Print Unit :=
  wrongNumber word "Numerical result out of range" "Numerical result out of range"

def isSpace (c : Char) : Bool :=
  c = ' ' || (9 ≤ c.toNat && c.toNat ≤ 13)

def takeSign : List Char → Bool × List Char
  | '-' :: rest => (true, rest)
  | '+' :: rest => (false, rest)
  | cs => (false, cs)

def constant? (printer : Printer) (word : String) : Option (Nat × List Char) :=
  match word.toList with
  | q :: c :: rest => if q = '\x22' || q = '\x27' then some (c.toNat, rest) else none
  | [q] => if (q = '\x22' || q = '\x27') && printer = .shell then some (0, []) else none
  | [] => none

def wholeNumber (isSigned : Bool) (word : String) : Print Int := do
  let p ← get
  match constant? p.printer word with
  | some (n, rest) =>
    if !rest.isEmpty && p.printer ≠ .shell then
      note ("warning: " ++ String.ofList rest ++
        ": character(s) following character constant have been ignored")
    pure n
  | none =>
    let (negative, body) := takeSign (word.toList.dropWhile isSpace)
    if !body.head?.any isDigit then
      if !word.isEmpty then notNumber word
      pure 0
    else
      let (n, rest) := Calculate.numberAt body
      let value : Int := if negative then -(n : Int) else n
      let limit : Int := if isSigned then Int.pow 2 63 else Int.pow 2 64
      let isInside :=
        if isSigned then decide (-limit ≤ value ∧ value < limit)
        else decide ((n : Int) < limit)
      let value :=
        if isInside then value else if negative && isSigned then -limit else limit - 1
      if !rest.isEmpty && (isInside || p.printer = .shell) then notConverted word
      else if !isInside then outOfRange word
      pure (if isSigned then value else value % Int.pow 2 64)

inductive Real where
  | quotient (negative : Bool) (num den : Nat)
  | infinite (negative : Bool)
  | nan

def exponentLimit : Nat := 6000

def exponentAt (letters : List Char) (cs : List Char) : Int × List Char :=
  match cs with
  | e :: rest =>
    let (negative, digits) := takeSign rest
    let run := digits.takeWhile isDigit
    if letters.contains e && !run.isEmpty then
      let n : Int := run.foldl (fun n c => n * 10 + (c.toNat - 48)) 0
      (if negative then -n else n, digits.drop run.length)
    else (0, cs)
  | [] => (0, [])

def pointedAt (base : Nat) (cs : List Char) : Option (Nat × Nat × List Char) :=
  let isBaseDigit (c : Char) : Bool := (Calculate.digitOf? base c).isSome
  let whole := cs.takeWhile isBaseDigit
  let rest := cs.drop whole.length
  let fraction := match rest with | '.' :: more => more.takeWhile isBaseDigit | _ => []
  let after :=
    match rest with
    | '.' :: more =>
      if whole.isEmpty && fraction.isEmpty then rest else more.drop fraction.length
    | _ => rest
  if whole.isEmpty && fraction.isEmpty then none
  else
    let n := (whole ++ fraction).foldl (fun n c => n * base + (Calculate.digitOf? base c).getD 0) 0
    some (n, fraction.length, after)

def scaled (negative : Bool) (n base : Nat) (e : Int) : Real :=
  let amount := min e.natAbs exponentLimit
  if 0 ≤ e then .quotient negative (n * Nat.pow base amount) 1
  else .quotient negative n (Nat.pow base amount)

def realAt (cs : List Char) : Option (Real × List Char) :=
  let (negative, body) := takeSign (cs.dropWhile isSpace)
  let small := body.map Char.toLower
  if "infinity".toList.isPrefixOf small then some (.infinite negative, body.drop 8)
  else if "inf".toList.isPrefixOf small then some (.infinite negative, body.drop 3)
  else if "nan".toList.isPrefixOf small then some (.nan, body.drop 3)
  else
    let hex : Option (Real × List Char) :=
      match body with
      | '0' :: x :: rest =>
        if x = 'x' || x = 'X' then
          (pointedAt 16 rest).map fun (n, places, after) =>
            let (e, after) := exponentAt ['p', 'P'] after
            (scaled negative n 2 (e - 4 * places), after)
        else none
      | _ => none
    match hex with
    | some found => some found
    | none =>
      (pointedAt 10 body).map fun (n, places, after) =>
        let (e, after) := exponentAt ['e', 'E'] after
        (scaled negative n 10 (e - places), after)

def precisionOf (printer : Printer) : Nat × Int × Int :=
  if printer = .shell then (53, -1074, 971) else (64, -16445, 16320)

def kept? (printer : Printer) (num den : Nat) : Option (Nat × Int) :=
  if num = 0 then some (0, 0)
  else
    let (bits, least, greatest) := precisionOf printer
    let e := max (Binary64.log2Quotient num den - (bits - 1)) least
    let m := Binary64.roundScaled num den e
    if greatest < e then none else some (m, e)

def isOutside (printer : Printer) : Real → Bool
  | .quotient _ num den =>
    match kept? printer num den with
    | none => true
    | some (m, e) =>
      let (bits, least, _) := precisionOf printer
      num ≠ 0 && e = least && m < Nat.pow 2 (bits - 1)
  | _ => false

def realNumber (word : String) : Print Real := do
  let p ← get
  match constant? p.printer word with
  | some (n, rest) =>
    if !rest.isEmpty && p.printer ≠ .shell then
      note ("warning: " ++ String.ofList rest ++
        ": character(s) following character constant have been ignored")
    pure (.quotient false n 1)
  | none =>
    match realAt word.toList with
    | none =>
      if !word.isEmpty then notNumber word
      pure (.quotient false 0 1)
    | some (x, rest) =>
      if !rest.isEmpty && (!isOutside p.printer x || p.printer = .shell) then notConverted word
      else if isOutside p.printer x then outOfRange word
      pure x

structure Directive where
  flags : List Char
  width : Nat
  places : Option Nat
  letter : Char

namespace Directive

def has (d : Directive) (c : Char) : Bool :=
  d.flags.contains c

def padded (d : Directive) (cs : List Char) : List Char :=
  let gap := List.replicate (d.width - cs.length) ' '
  if d.has '-' then cs ++ gap else gap ++ cs

def paddedNumber (d : Directive) (sign body : List Char) (withZeros : Bool) : List Char :=
  if withZeros && d.has '0' && !d.has '-' then
    sign ++ List.replicate (d.width - sign.length - body.length) '0' ++ body
  else d.padded (sign ++ body)

def signOf (d : Directive) (negative : Bool) : List Char :=
  if negative then ['-'] else if d.has '+' then ['+'] else if d.has ' ' then [' '] else []

def digitsOf (d : Directive) (base n : Nat) : List Char :=
  let digits := if n = 0 && d.places = some 0 then [] else Nat.toDigits base n
  List.replicate (d.places.getD 0 - digits.length) '0' ++ digits

def signed (d : Directive) (n : Int) : List Char :=
  d.paddedNumber (d.signOf (n < 0)) (d.digitsOf 10 n.natAbs) d.places.isNone

def unsigned (d : Directive) (n : Nat) : List Char :=
  match d.letter with
  | 'x' =>
    d.paddedNumber (if d.has '#' && n ≠ 0 then ['0', 'x'] else []) (d.digitsOf 16 n) d.places.isNone
  | 'X' =>
    d.paddedNumber (if d.has '#' && n ≠ 0 then ['0', 'X'] else [])
      ((d.digitsOf 16 n).map Char.toUpper) d.places.isNone
  | 'o' =>
    let digits := d.digitsOf 8 n
    d.paddedNumber [] (if d.has '#' && digits.head? ≠ some '0' then '0' :: digits else digits)
      d.places.isNone
  | _ => d.paddedNumber [] (d.digitsOf 10 n) d.places.isNone

def real (d : Directive) (printer : Printer) (x : Real) : List Char :=
  let places := d.places.getD 6
  let cased (cs : List Char) : List Char := if d.letter.isUpper then cs.map Char.toUpper else cs
  let special (negative : Bool) (name : String) : List Char :=
    cased (d.paddedNumber (d.signOf negative) name.toList false)
  match x with
  | .infinite negative => special negative "inf"
  | .nan => special false "nan"
  | .quotient negative num den =>
    match kept? printer num den with
    | none => special negative "inf"
    | some (m, e) =>
      let text :=
        match d.letter.toLower with
        | 'f' => Decimal.fixed m e places (d.has '#')
        | 'e' => Decimal.scientific m e places (d.has '#')
        | _ => Decimal.general m e (max places 1) (d.has '#')
      cased (d.paddedNumber (d.signOf negative) text.toList true)

end Directive

def natOf (cs : List Char) : Nat :=
  cs.foldl (fun n c => n * 10 + (c.toNat - 48)) 0

def measure (cs : List Char) : Print (Option Int × List Char) := do
  match cs with
  | '*' :: rest =>
    let n ← wholeNumber true (← nextWord)
    pure (some n, rest)
  | _ =>
    let digits := cs.takeWhile isDigit
    pure (if digits.isEmpty then none else some (natOf digits : Int), cs.drop digits.length)

def isDirective (printer : Printer) (flags : List Char) (hasPlaces : Bool) (letter : Char) : Bool :=
  let known := ['d', 'i', 'o', 'u', 'x', 'X', 'e', 'E', 'f', 'F', 'g', 'G', 'c', 's'].contains letter
  match printer with
  | .shell => known || letter = 'b'
  | _ =>
    known &&
      !(flags.contains '#' && ['c', 'd', 'i', 's', 'u'].contains letter) &&
      !(flags.contains '0' && ['c', 's'].contains letter) &&
      !(flags.contains '\x27' && ['c', 'e', 'E', 'o', 's', 'x', 'X'].contains letter) &&
      !(hasPlaces && letter = 'c')

def escapedWord (word : String) : Print (List Char) := do
  let p ← get
  let (cs, printed) := unescape p.printer p.isUnicode word.length word.toList
  match printed with
  | .faulty =>
    emit cs
    fail "missing hexadecimal number in escape"
  | _ => pure cs

def apply (d : Directive) : Print Unit := do
  match d.letter with
  | 'd' | 'i' =>
    let n ← wholeNumber true (← nextWord)
    emit (d.signed n)
  | 'o' | 'u' | 'x' | 'X' =>
    let n ← wholeNumber false (← nextWord)
    emit (d.unsigned n.toNat)
  | 'c' =>
    let word ← nextWord
    emit (d.padded [word.toList.head?.getD '\x00'])
  | 's' =>
    let word ← nextWord
    emit (d.padded (match d.places with | some n => word.toList.take n | none => word.toList))
  | 'b' =>
    let word ← nextWord
    let cs ← escapedWord word
    emit (d.padded (match d.places with | some n => cs.take n | none => cs))
    let p ← get
    if (unescape p.printer p.isUnicode word.length word.toList).2 = .stopped then throw .stopped
  | _ =>
    let x ← realNumber (← nextWord)
    emit (d.real (← get).printer x)

def directive (cs : List Char) : Print (List Char) := do
  let printer := (← get).printer
  let isProgram := printer ≠ .shell
  if isProgram && cs.head? = some 'b' then
    apply ⟨[], 0, none, 'b'⟩
    pure cs.tail
  else if isProgram && cs.head? = some 'q' then
    let word ← nextWord
    emit (quoteForShell (← get).isUnicode false word).toList
    pure cs.tail
  else
    let marks := ['-', '+', ' ', '#', '0'] ++ if isProgram then ['\x27', 'I'] else []
    let flags := cs.takeWhile marks.contains
    let (width, rest) ← measure (cs.drop flags.length)
    let hasPlaces := rest.head? = some '.'
    let (places, rest) ← if hasPlaces then measure rest.tail else pure (none, rest)
    let rest :=
      if isProgram then rest.dropWhile fun c => ['l', 'L', 'h', 'j', 't', 'z'].contains c else rest
    let shown (n : Nat) : String := String.ofList ('%' :: cs.take (cs.length - rest.length + n))
    match rest with
    | [] =>
      if isProgram then fail (shown 0 ++ ": invalid conversion specification")
      else fail "missing format character"
    | letter :: after =>
      if isDirective printer flags hasPlaces letter then
        let width := width.getD 0
        let flags := if width < 0 then '-' :: flags else flags
        let places : Option Nat :=
          if hasPlaces then
            match places with
            | none => some 0
            | some n => if n < 0 then none else some n.toNat
          else none
        apply ⟨flags, width.natAbs, places, letter⟩
        pure after
      else if isProgram then fail (shown 1 ++ ": invalid conversion specification")
      else fail (shown 1 ++ ": invalid directive")

def once : Nat → List Char → Print Unit
  | 0, _ => pure ()
  | _, [] => pure ()
  | fuel + 1, '%' :: '%' :: rest => do
    emit ['%']
    once fuel rest
  | fuel + 1, '%' :: rest => do
    let rest ← directive rest
    once fuel rest
  | fuel + 1, '\\' :: rest => do
    let p ← get
    match Escape.ofChars p.printer false p.isUnicode rest with
    | (.text cs, rest) =>
      emit cs
      once fuel rest
    | (.stop, _) => throw .stopped
    | (.missingDigits, _) => fail "missing hexadecimal number in escape"
  | fuel + 1, c :: rest => do
    emit [c]
    once fuel rest

def again (format : List Char) : Nat → Print Unit
  | 0 => once format.length format
  | fuel + 1 => do
    once format.length format
    let p ← get
    if p.takesWords && !p.words.isEmpty then again format fuel

end Print

def formatted (printer : Printer) (isUnicode : Bool) (format : String) (words : List String) :
    List (Nat × String) × Nat :=
  let start : Printing := ⟨printer, isUnicode, words, false, [], [], false⟩
  let action : Print Unit := do
    Print.again format.toList words.length
    let p ← get
    match p.words with
    | word :: _ =>
      if printer ≠ .shell && !p.takesWords then
        Print.note ("warning: ignoring excess arguments, starting with " ++
          quoteMarked isUnicode word)
    | [] => pure ()
  let (p, isFailed) : Printing × Bool :=
    match action.run start with
    | .ok _ p => (p, false)
    | .error .stopped p => (p, false)
    | .error .failed p => (p, true)
  (((1, String.ofList p.out.reverse) :: p.done).reverse,
    if isFailed && printer = .shell then 2 else if p.isWrong then 1 else 0)

end WorkspaceImport.Shell
