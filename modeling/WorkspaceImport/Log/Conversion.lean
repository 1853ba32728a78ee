import WorkspaceImport.Data.Value
import WorkspaceImport.Number.Places
/-!
How a directive of a template writes its argument: as a text, as a character, or as a number in one of
several forms. The result is filled up to the width of the directive.
-/
namespace WorkspaceImport.Log

inductive TemplateFault where
  | arguments
  | missingKey
  | outOfRange
  | noRoom
  | notNumber
  | incompleteKey
  | incomplete
  | widthTooBig
  | precisionTooBig
  | badLetter (letter : Char) (index : Nat)
  deriving DecidableEq

def TemplateFault.message : TemplateFault → String
  | .notNumber => "cannot convert float NaN to integer"
  | .incompleteKey => "incomplete format key"
  | .incomplete => "incomplete format"
  | .widthTooBig => "width too big"
  | .precisionTooBig => "precision too big"
  | .badLetter letter index =>
    "unsupported format character '" ++
      String.singleton (if 31 ≤ letter.toNat ∧ letter.toNat < 127 then letter else '?') ++
      "' (0x" ++ String.ofList (Nat.toDigits 16 letter.toNat) ++ ") at index " ++ toString index
  | .arguments | .missingKey | .outOfRange | .noRoom => ""

structure Directive where
  flags : List Char
  width : Int
  precision : Option Nat
  letter : Char
  index : Nat

/-- What a directive makes of its argument: a sign and a mark of the base, which stand before zeros
that fill the width, and the rest. -/
structure Rendered where
  sign : String
  mark : String
  body : String

namespace Directive

def has (d : Directive) (flag : Char) : Bool :=
  d.flags.contains flag

def signOf (d : Directive) (negative : Bool) : String :=
  if negative then "-" else if d.has '+' then "+" else if d.has ' ' then " " else ""

def wholeNumber (v : Value) : Except TemplateFault Int :=
  match v with
  | .bool b => .ok (if b then 1 else 0)
  | .int n => .ok n
  | .float (.finite s m e) =>
    let n : Nat := if 0 ≤ e then m * Nat.pow 2 e.toNat else m / Nat.pow 2 (-e).toNat
    .ok (if s then -(n : Int) else n)
  | .float (.infinite _) => .error .outOfRange
  | .float .nan => .error .notNumber
  | _ => .error .arguments

def exactNumber : Value → Except TemplateFault Int
  | .bool b => .ok (if b then 1 else 0)
  | .int n => .ok n
  | _ => .error .arguments

def realNumber (v : Value) : Except TemplateFault Binary64 :=
  let ofWhole (n : Int) : Except TemplateFault Binary64 :=
    match Binary64.ofInt n with
    | .infinite _ => .error .outOfRange
    | x => .ok x
  match v with
  | .bool b => ofWhole (if b then 1 else 0)
  | .int n => ofWhole n
  | .float x => .ok x
  | _ => .error .arguments

def roomLimit : Nat := 100000000

def wholePrecisionLimit : Nat := 2147483644

def writeWhole (d : Directive) (base : Nat) (mark : String) (n : Int) :
    Except TemplateFault Rendered :=
  let least := d.precision.getD 0
  if wholePrecisionLimit < least then .error .outOfRange
  else if roomLimit < least then .error .noRoom
  else
    let digits := Nat.toDigits base n.natAbs
    let digits := List.replicate (least - digits.length) '0' ++ digits
    let digits := if d.letter = 'X' then digits.map Char.toUpper else digits
    .ok ⟨d.signOf (n < 0), if d.has '#' then mark else "", String.ofList digits⟩

def writeReal (d : Directive) (x : Binary64) : Except TemplateFault Rendered :=
  let places := d.precision.getD 6
  let rendered (negative : Bool) (body : String) : Rendered :=
    ⟨d.signOf negative, "", if ['E', 'F', 'G'].contains d.letter then
      String.ofList (body.toList.map Char.toUpper) else body⟩
  match x with
  | .nan => .ok (rendered false "nan")
  | .infinite s => .ok (rendered s "inf")
  | .finite s m e =>
    if roomLimit < places then .error .noRoom
    else
      .ok (rendered s
        (match d.letter with
        | 'e' | 'E' => Decimal.scientific m e places (d.has '#')
        | 'g' | 'G' => Decimal.general m e (max places 1) (d.has '#')
        | _ => Decimal.fixed m e places (d.has '#')))

def asciiOnly (s : String) : String :=
  String.ofList (s.toList.flatMap fun c =>
    let n := c.toNat
    if n < 0x80 then [c]
    else if n < 0x100 then '\\' :: 'x' :: Text.hexDigits 2 n
    else if n < 0x10000 then '\\' :: 'u' :: Text.hexDigits 4 n
    else '\\' :: 'U' :: Text.hexDigits 8 n)

def writeText (d : Directive) (s : String) : Rendered :=
  ⟨"", "", match d.precision with | some n => String.ofList (s.toList.take n) | none => s⟩

def charOf : Value → Except TemplateFault String
  | .text s => if s.length = 1 then .ok s else .error .arguments
  | v => do
    let n ← exactNumber v
    if 0 ≤ n ∧ n < 0x110000 then pure (String.singleton (Char.ofNat n.toNat)) else throw .outOfRange

def write (d : Directive) (v : Value) : Except TemplateFault Rendered :=
  match d.letter with
  | 's' => .ok (d.writeText v.display)
  | 'r' => .ok (d.writeText v.shown)
  | 'a' => .ok (d.writeText (asciiOnly v.shown))
  | 'c' => (charOf v).map fun s => ⟨"", "", s⟩
  | 'd' | 'i' | 'u' => (wholeNumber v).bind (d.writeWhole 10 "")
  | 'o' => (exactNumber v).bind (d.writeWhole 8 "0o")
  | 'x' => (exactNumber v).bind (d.writeWhole 16 "0x")
  | 'X' => (exactNumber v).bind (d.writeWhole 16 "0X")
  | 'e' | 'E' | 'f' | 'F' | 'g' | 'G' => (realNumber v).bind d.writeReal
  | letter => .error (.badLetter letter d.index)

def isNumeric (d : Directive) : Bool :=
  ['d', 'i', 'u', 'o', 'x', 'X', 'e', 'E', 'f', 'F', 'g', 'G'].contains d.letter

def fill (d : Directive) (w : Rendered) : Except TemplateFault String :=
  let whole := w.sign ++ w.mark ++ w.body
  let missing := d.width.natAbs - whole.length
  if roomLimit < missing then .error .noRoom
  else if d.has '-' || d.width < 0 then .ok (whole.pushn ' ' missing)
  else if d.isNumeric && d.has '0' then .ok (w.sign ++ w.mark ++ "".pushn '0' missing ++ w.body)
  else .ok ("".pushn ' ' missing ++ whole)

def render (d : Directive) (v : Value) : Except TemplateFault String :=
  (d.write v).bind d.fill

end Directive

end WorkspaceImport.Log
