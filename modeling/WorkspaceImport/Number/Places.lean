import WorkspaceImport.Number.Shortest
/-!
Decimal texts of binary64 numbers with a given number of digits. The exact value is rounded once, a
half going to the even neighbour.
-/
namespace WorkspaceImport

namespace Decimal

def inUnits (m : Nat) (e places : Int) : Nat :=
  let num := m * (if 0 ≤ e then Nat.pow 2 e.toNat else 1) *
    (if 0 ≤ places then Nat.pow 10 places.toNat else 1)
  let den := (if 0 ≤ e then 1 else Nat.pow 2 (-e).toNat) *
    (if 0 ≤ places then 1 else Nat.pow 10 (-places).toNat)
  Binary64.roundQuotient num den

def withPoint (places : Nat) (keepPoint : Bool) (n : Nat) : String :=
  let digits := toString n
  let ds := ("".pushn '0' (places + 1 - digits.length) ++ digits).toList
  let whole := ds.take (ds.length - places)
  let fraction := ds.drop (ds.length - places)
  String.ofList whole ++
    (if fraction.isEmpty && !keepPoint then "" else "." ++ String.ofList fraction)

def fixed (m : Nat) (e : Int) (places : Nat) (keepPoint : Bool) : String :=
  withPoint places keepPoint (inUnits m e places)

def leading (m : Nat) (e : Int) (places : Nat) : Nat × Int :=
  if m = 0 then (0, 0)
  else
    let place := leadingPlace m e
    let n := inUnits m e (places - place)
    if n = Nat.pow 10 (places + 1) then (Nat.pow 10 places, place + 1) else (n, place)

def scientific (m : Nat) (e : Int) (places : Nat) (keepPoint : Bool) : String :=
  let (n, place) := leading m e places
  withPoint places keepPoint n ++ exponentText place

def dropZeros (s : String) : String :=
  let cs := s.toList
  if cs.contains '.' then
    String.ofList (((cs.reverse.dropWhile (· = '0')).dropWhile (· = '.')).reverse)
  else s

/-- The number with so many digits, without an exponent where it is between `0.0001` and the digits
that there are. Zeros at the end are dropped unless they are wanted. -/
def general (m : Nat) (e : Int) (digits : Nat) (keepZeros : Bool) : String :=
  let places := digits - 1
  let (n, place) := leading m e places
  let trim (s : String) : String := if keepZeros then s else dropZeros s
  if -4 ≤ place ∧ place ≤ places then trim (fixed m e (places - place).toNat keepZeros)
  else trim (withPoint places keepZeros n) ++ exponentText place

end Decimal

end WorkspaceImport
