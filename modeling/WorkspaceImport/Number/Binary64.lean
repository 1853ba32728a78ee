/-!
Binary64 numbers as exact data. A finite number is a sign, a mantissa below `2 ^ 53` and an
exponent, so that reading and printing decimals are statements about natural numbers.
-/
namespace WorkspaceImport

/-- `finite s m e` is `m * 2 ^ e`, negated when `s` holds. Nonzero mantissas below `2 ^ 52` occur
with the least exponent only, and zero has exponent zero. -/
inductive Binary64 where
  | finite (negative : Bool) (mantissa : Nat) (exponent : Int)
  | infinite (negative : Bool)
  | nan
  deriving DecidableEq, Inhabited

namespace Binary64

def zero (negative : Bool) : Binary64 :=
  .finite negative 0 0

def roundQuotient (num den : Nat) : Nat :=
  let q := num / den
  let r := num % den
  if 2 * r < den then q
  else if den < 2 * r then q + 1
  else if q % 2 = 0 then q else q + 1

def roundScaled (num den : Nat) (e : Int) : Nat :=
  if 0 ≤ e then roundQuotient num (den * Nat.pow 2 e.toNat)
  else roundQuotient (num * Nat.pow 2 (-e).toNat) den

def log2Quotient (num den : Nat) : Int :=
  let k : Int := (Nat.log2 num : Int) - Nat.log2 den
  let reached :=
    if 0 ≤ k then den * Nat.pow 2 k.toNat ≤ num else den ≤ num * Nat.pow 2 (-k).toNat
  if reached then k else k - 1

def ofQuotient (negative : Bool) (num den : Nat) : Binary64 :=
  if num = 0 then zero negative
  else
    let e := max (log2Quotient num den - 52) (-1074)
    let m := roundScaled num den e
    let (m, e) := if m = Nat.pow 2 53 then (Nat.pow 2 52, e + 1) else (m, e)
    if 971 < e then .infinite negative
    else if m = 0 then zero negative
    else .finite negative m e

def decimalLength (n : Nat) : Nat :=
  (Nat.toDigits 10 n).length

/-- The number nearest to `digits * 10 ^ exponent`. Exponents far outside the range are settled
without building the power. -/
def ofDecimal (negative : Bool) (digits : Nat) (exponent : Int) : Binary64 :=
  if digits = 0 then zero negative
  else if 400 < exponent + decimalLength digits then .infinite negative
  else if exponent + decimalLength digits < -400 then zero negative
  else if 0 ≤ exponent then ofQuotient negative (digits * Nat.pow 10 exponent.toNat) 1
  else ofQuotient negative digits (Nat.pow 10 (-exponent).toNat)

def ofInt (n : Int) : Binary64 :=
  ofQuotient (n < 0) n.natAbs 1

def isZero : Binary64 → Bool
  | .finite _ m _ => m == 0
  | _ => false

def toInt? : Binary64 → Option Int
  | .finite s m e =>
    let whole : Option Nat :=
      if 0 ≤ e then some (m * Nat.pow 2 e.toNat)
      else if m % Nat.pow 2 (-e).toNat = 0 then some (m / Nat.pow 2 (-e).toNat) else none
    whole.map fun n => if s then -(n : Int) else n
  | _ => none

end Binary64

end WorkspaceImport
