import WorkspaceImport.Calendar
import WorkspaceImport.Data.Value
import WorkspaceImport.Number.Arithmetic
/-!
The moment of a line, given in seconds since the beginning of 1970. What is less than a second is
rounded to millionths after it was multiplied as a binary64 number. Seconds are counted in 64 bits and
years in 32.
-/
namespace WorkspaceImport.Log

inductive MomentFault where
  | year (n : Int)
  | notNumber
  | tooLarge
  | noYear
  | notSeconds
  deriving DecidableEq

def splitSeconds (m : Nat) (e : Int) : Nat × Nat :=
  if 0 ≤ e then (m * Nat.pow 2 e.toNat, 0)
  else
    let unit := Nat.pow 2 (-e).toNat
    (m / unit,
      match (Binary64.ofQuotient false (m % unit) unit).mul (.ofInt 1000000) with
      | .finite _ n f => Binary64.roundScaled n 1 (-f)
      | _ => 0)

def carrySeconds (negative : Bool) (seconds micros : Nat) : Int × Nat :=
  let (seconds, micros) := if 1000000 ≤ micros then (seconds + 1, micros - 1000000) else (seconds, micros)
  if negative then
    if micros = 0 then (-(seconds : Int), 0) else (-(seconds : Int) - 1, 1000000 - micros)
  else (seconds, micros)

def countedYear? (year : Int) : Option Int :=
  if -Int.pow 2 31 ≤ year - 1900 ∧ year - 1900 < Int.pow 2 31 then some (year.bmod (Nat.pow 2 32))
  else none

def textOfSeconds (seconds : Int) (micros : Nat) : Except MomentFault String :=
  if seconds < -Int.pow 2 63 ∨ Int.pow 2 63 ≤ seconds then .error .tooLarge
  else
    (Calendar.momentText? seconds micros).mapError fun year =>
      (countedYear? year).elim .noYear .year

def momentText : Value → Except MomentFault String
  | .float .nan => .error .notNumber
  | .float (.infinite _) => .error .tooLarge
  | .float (.finite s m e) =>
    let (seconds, micros) := splitSeconds m e
    let (seconds, micros) := carrySeconds s seconds micros
    textOfSeconds seconds micros
  | .int n => textOfSeconds n 0
  | .bool b => textOfSeconds (if b then 1 else 0) 0
  | _ => .error .notSeconds

def MomentFault.message : MomentFault → String
  | .year n => "year " ++ toString n ++ " is out of range"
  | .notNumber => "Invalid value NaN (not a number)"
  | .tooLarge | .noYear | .notSeconds => ""

end WorkspaceImport.Log
