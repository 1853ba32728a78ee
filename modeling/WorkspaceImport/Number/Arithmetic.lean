import WorkspaceImport.Number.Binary64
/-!
Sums and products of binary64 numbers. Each is the exact result, rounded once.
-/
namespace WorkspaceImport.Binary64

def negate : Binary64 → Binary64
  | .finite s m e => .finite (!s) m e
  | .infinite s => .infinite (!s)
  | .nan => .nan

def ofScaled (negative : Bool) (n : Nat) (e : Int) : Binary64 :=
  if 0 ≤ e then ofQuotient negative (n * Nat.pow 2 e.toNat) 1
  else ofQuotient negative n (Nat.pow 2 (-e).toNat)

def signedUnits (negative : Bool) (m : Nat) (e unit : Int) : Int :=
  let n : Int := (m * Nat.pow 2 (e - unit).toNat : Nat)
  if negative then -n else n

def add : Binary64 → Binary64 → Binary64
  | .finite s m e, .finite t n f =>
    let unit := min e f
    let total := signedUnits s m e unit + signedUnits t n f unit
    if total = 0 then zero (s && t) else ofScaled (total < 0) total.natAbs unit
  | .infinite s, .infinite t => if s = t then .infinite s else .nan
  | .infinite s, .finite .. => .infinite s
  | .finite .., .infinite t => .infinite t
  | _, _ => .nan

def mul : Binary64 → Binary64 → Binary64
  | .finite s m e, .finite t n f => ofScaled (s != t) (m * n) (e + f)
  | .infinite s, .infinite t => .infinite (s != t)
  | .infinite s, .finite t n _ => if n = 0 then .nan else .infinite (s != t)
  | .finite s m _, .infinite t => if m = 0 then .nan else .infinite (s != t)
  | _, _ => .nan

/-- The rounded product with a natural number, which has to be one of the numbers that binary64
reaches. -/
def scale? (x : Binary64) (n : Nat) : Option Binary64 :=
  match ofInt n with
  | .infinite _ => none
  | factor => some (x.mul factor)

end WorkspaceImport.Binary64
