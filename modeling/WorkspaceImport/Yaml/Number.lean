import WorkspaceImport.Data.Value
import WorkspaceImport.Number.Numeral
import WorkspaceImport.Text.Base64
import WorkspaceImport.Text.LowerCase
import WorkspaceImport.Yaml.Kind
/-!
The numbers, the moments and the bytes that scalars stand for.
-/
namespace WorkspaceImport.Yaml

open Calendar

def withoutBars (cs : List Char) : List Char :=
  cs.filter (· ≠ '_')

def numeral {α : Type} (found : Except NumeralFault α) : Except Fault α :=
  found.mapError fun fault => .badValue fault.message

def readSixtieths (parts : List (List Char)) : Except Fault Int :=
  parts.foldlM (fun n part => (numeral (Numeral.whole 10 part)).map fun v => n * 60 + v) 0

def readUnsigned (body : List Char) : Except Fault Int :=
  match body with
  | [] => .error .emptyNumber
  | ['0'] => .ok 0
  | '0' :: 'b' :: digits => numeral (Numeral.whole 2 digits)
  | '0' :: 'x' :: digits => numeral (Numeral.whole 16 digits)
  | '0' :: _ => numeral (Numeral.whole 8 body)
  | _ =>
    if body.contains ':' then readSixtieths (Kind.splitColons body)
    else numeral (Numeral.whole 10 body)

def readInt (s : String) : Except Fault Int := do
  let (negative, body) := Numeral.takeSign (withoutBars s.toList)
  let n ← readUnsigned body
  pure (if negative then -n else n)

/-- The sum of the parts of a number to the base of sixty, least first, each times its power of the
base. A power may be too large for a number with a point. -/
def sumSixtieths (total : Binary64) (base : Nat) : List Binary64 → Except Fault Binary64
  | [] => .ok total
  | x :: rest =>
    match x.scale? base with
    | none => .error .tooLarge
    | some part => sumSixtieths (total.add part) (base * 60) rest

def readUnsignedFloat (body : List Char) : Except Fault Binary64 :=
  if body = ".inf".toList then .ok (.infinite false)
  else if body = ".nan".toList then .ok .nan
  else if body.contains ':' then do
    let parts ← (Kind.splitColons body).mapM fun part => numeral (Numeral.decimal part)
    sumSixtieths (.zero false) 1 parts.reverse
  else numeral (Numeral.decimal body)

def readFloat (s : String) : Except Fault Binary64 := do
  let cs := Text.lower (withoutBars s.toList)
  if cs.isEmpty then .error .emptyNumber
  else
    let (negative, body) := Numeral.takeSign cs
    let x ← readUnsignedFloat body
    pure (if negative then x.negate else x)

def readBytes (s : String) : Except Fault (List UInt8) :=
  let cs := s.toList
  if cs.all fun c => c.toNat < 128 then
    match Text.Base64.decode cs with
    | some bytes => .ok bytes
    | none => .error .malformed
  else .error .malformed

def dateFault? (year month day : Nat) : Option String :=
  if year < 1 then some ("year " ++ toString year ++ " is out of range")
  else if month < 1 ∨ 12 < month then some "month must be in 1..12"
  else if day < 1 ∨ daysIn year month < day then some "day is out of range for month"
  else none

def timeFault? (t : TimeOfDay) : Option String :=
  if 23 < t.hour then some "hour must be in 0..23"
  else if 59 < t.minute then some "minute must be in 0..59"
  else if 59 < t.second then some "second must be in 0..59"
  else none

def readOffset : Option (Option (Bool × List Char × List Char)) → Except Fault (Option Int)
  | none => .ok none
  | some none => .ok (some 0)
  | some (some (negative, hours, minutes)) =>
    let size : Int := Json.natOfDigits hours * 60 + Json.natOfDigits minutes
    let total := if negative then -size else size
    if size < 24 * 60 then .ok (some total)
    else
      .error (.badValue ("offset must be a timedelta strictly between -timedelta(hours=24) and " ++
        "timedelta(hours=24), not " ++ Moment.durationText total ++ "."))

def microseconds (fraction : List Char) : Nat :=
  let digits := fraction.take 6
  Json.natOfDigits digits * Nat.pow 10 (6 - digits.length)

def momentOf (m : Kind.MomentText) : Except Fault Moment := do
  let number := Json.natOfDigits
  let (year, month, day) := (number m.year, number m.month, number m.day)
  let time := m.time.map fun (h, n, s) =>
    TimeOfDay.mk (number h) (number n) (number s) (microseconds m.fraction)
  let offset ← readOffset m.offset
  match dateFault? year month day <|> time.bind timeFault? with
  | some message => .error (.badValue message)
  | none => pure ⟨year, month, day, time, offset⟩

def readMoment (s : String) : Except Fault Moment :=
  match Kind.momentText? (Kind.withoutFinalBreak s.toList) with
  | none => .error .badMoment
  | some m => momentOf m

end WorkspaceImport.Yaml
