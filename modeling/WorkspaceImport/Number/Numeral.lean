import WorkspaceImport.Json.Reader
import WorkspaceImport.Number.Arithmetic
import WorkspaceImport.Text.Blank
import WorkspaceImport.Text.Digits
/-!
Numerals as people write them: whole numbers in a base, and decimal numbers with a point and an
exponent. Blanks at the two ends do not count, and the digits may be those of any script.
-/
namespace WorkspaceImport

inductive NumeralFault where
  | whole (base : Nat) (text : String)
  | tooLong (digits : Nat)
  | decimal (text : String)
  deriving DecidableEq

def NumeralFault.message : NumeralFault → String
  | .whole base text =>
    "invalid literal for int() with base " ++ toString base ++ ": " ++
      String.ofList ((Text.quoted text).toList.take 200)
  | .tooLong digits => (Json.Fault.digits digits).message ""
  | .decimal text => "could not convert string to float: " ++ Text.quoted text

namespace Numeral

/-- A text with the digits of all scripts written in ASCII, and with other blanks as spaces. Any other
character ends what can be a numeral. -/
def inAscii : List Char → List Char
  | [] => []
  | c :: rest =>
    if c.toNat < 127 then c :: inAscii rest
    else if Text.isBlank c then ' ' :: inAscii rest
    else
      match Text.decimalDigit? c with
      | some d => Char.ofNat (48 + d) :: inAscii rest
      | none => ['?']

def plainForm (cs : List Char) : List Char :=
  if cs.all fun c => c.toNat < 128 then cs else inAscii cs

def isMargin (c : Char) : Bool :=
  c = ' ' || (9 ≤ c.toNat && c.toNat ≤ 13)

def takeSign : List Char → Bool × List Char
  | '-' :: rest => (true, rest)
  | '+' :: rest => (false, rest)
  | cs => (false, cs)

def baseMark? (base : Nat) : Option Char :=
  if base = 2 then some 'b' else if base = 8 then some 'o' else if base = 16 then some 'x' else none

def dropBaseMark (base : Nat) (cs : List Char) : List Char :=
  match cs, baseMark? base with
  | '0' :: c :: rest, some mark => if c.toLower = mark then rest else cs
  | _, _ => cs

def digitValue? (base : Nat) (c : Char) : Option Nat :=
  (Json.hexValue? c).filter (· < base)

def natInBase (base : Nat) (digits : List Char) : Nat :=
  digits.foldl (fun n c => n * base + (digitValue? base c).getD 0) 0

def whole (base : Nat) (cs : List Char) : Except NumeralFault Int :=
  let (negative, unsigned) := takeSign ((plainForm cs).dropWhile isMargin)
  let body := dropBaseMark base unsigned
  let digits := body.takeWhile fun c => (digitValue? base c).isSome
  if base = 10 ∧ Json.digitLimit < digits.length then .error (.tooLong digits.length)
  else if digits.isEmpty || !(body.drop digits.length).all isMargin then
    .error (.whole base (String.ofList cs))
  else
    let n : Int := natInBase base digits
    .ok (if negative then -n else n)

def pointed? (cs : List Char) : Option Binary64 :=
  let whole := cs.takeWhile Json.isDigit
  let rest := cs.dropWhile Json.isDigit
  let (fraction, rest) :=
    match rest with
    | '.' :: more => (more.takeWhile Json.isDigit, more.dropWhile Json.isDigit)
    | _ => ([], rest)
  if whole.isEmpty && fraction.isEmpty then none
  else
    let number (exponent : Int) : Binary64 :=
      .ofDecimal false (Json.natOfDigits (whole ++ fraction)) (exponent - fraction.length)
    match rest with
    | [] => some (number 0)
    | e :: more =>
      let (negative, digits) := takeSign more
      if (e = 'e' || e = 'E') && !digits.isEmpty && digits.all Json.isDigit then
        let n : Int := Json.natOfDigits digits
        some (number (if negative then -n else n))
      else none

def unsigned? (cs : List Char) : Option Binary64 :=
  let small := cs.map Char.toLower
  if small = "inf".toList ∨ small = "infinity".toList then some (.infinite false)
  else if small = "nan".toList then some .nan
  else pointed? cs

def decimal (cs : List Char) : Except NumeralFault Binary64 :=
  let inner := ((plainForm cs).dropWhile isMargin).reverse.dropWhile isMargin
  let (negative, body) := takeSign inner.reverse
  match unsigned? body with
  | some x => .ok (if negative then x.negate else x)
  | none => .error (.decimal (String.ofList cs))

end Numeral

end WorkspaceImport
