import WorkspaceImport.Number.Binary64
/-!
The shortest decimal text of a binary64 number: the fewest digits that read back, and among those
the nearest. The layout of the digits is a record of its own.
-/
namespace WorkspaceImport

structure Decimal where
  digits : Nat
  exponent : Int
  deriving DecidableEq

namespace Decimal

/-- Whether `d * 10 ^ p` is read as the number `m * 2 ^ e`. The bounds of the interval are kept in
quarters of the unit of the mantissa, and belong to it when the mantissa is even. -/
def readsAs (m : Nat) (e : Int) (d : Nat) (p : Int) : Bool :=
  let below := if m = Nat.pow 2 52 ∧ -1074 < e then 1 else 2
  let scale (n : Nat) (x : Int) (base : Nat) : Nat := if 0 ≤ x then n * Nat.pow base x.toNat else n
  let point := scale (scale (4 * d) p 10) (-e) 2
  let bound (quarters : Nat) := scale (scale quarters e 2) (-p) 10
  let low := bound (4 * m - below)
  let high := bound (4 * m + 2)
  if m % 2 = 0 then low ≤ point && point ≤ high else low < point && point < high

def leadingPlace (m : Nat) (e : Int) : Int :=
  if 0 ≤ e then (Binary64.decimalLength (m * Nat.pow 2 e.toNat) : Int) - 1
  else (Binary64.decimalLength (m * Nat.pow 10 400 / Nat.pow 2 (-e).toNat) : Int) - 401

def candidate? (m : Nat) (e : Int) (count : Nat) : Option Decimal :=
  let p := leadingPlace m e - count + 1
  let num := m * (if 0 ≤ e then Nat.pow 2 e.toNat else 1) *
    (if 0 ≤ p then 1 else Nat.pow 10 (-p).toNat)
  let den := (if 0 ≤ e then 1 else Nat.pow 2 (-e).toNat) *
    (if 0 ≤ p then Nat.pow 10 p.toNat else 1)
  let near := Binary64.roundQuotient num den
  let down := num / den
  let other := if near = down then down + 1 else down
  if readsAs m e near p then some ⟨near, p⟩
  else if readsAs m e other p then some ⟨other, p⟩
  else none

def search (m : Nat) (e : Int) : Nat → Decimal
  | 0 => ⟨m, e⟩
  | left + 1 => (candidate? m e (17 - left)).getD (search m e left)

def shortest (m : Nat) (e : Int) : Decimal :=
  let found := search m e 17
  if found.digits = Nat.pow 10 (Binary64.decimalLength found.digits - 1) then
    ⟨1, found.exponent + (Binary64.decimalLength found.digits - 1 : Nat)⟩
  else found

end Decimal

structure NumberLayout where
  leastPlace : Int
  greatestPlace : Int
  lonePoint : String
  infinity : String
  notANumber : String

def NumberLayout.message : NumberLayout := ⟨-4, 15, "", "inf", "nan"⟩

def NumberLayout.json : NumberLayout := ⟨-4, 15, "", "Infinity", "NaN"⟩

def NumberLayout.yaml : NumberLayout := ⟨-4, 15, ".0", ".inf", ".nan"⟩

namespace Decimal

def exponentText (n : Int) : String :=
  let digits := toString n.natAbs
  (if n < 0 then "e-" else "e+") ++ (if digits.length < 2 then "0" ++ digits else digits)

def write (layout : NumberLayout) (d : Decimal) : String :=
  let ds := (toString d.digits).toList
  let place : Int := d.exponent + ds.length - 1
  if layout.leastPlace ≤ place ∧ place ≤ layout.greatestPlace then
    if place < 0 then
      "0." ++ String.ofList (List.replicate (-place - 1).toNat '0' ++ ds)
    else if ds.length ≤ place + 1 then
      String.ofList (ds ++ List.replicate (place + 1 - ds.length).toNat '0') ++ ".0"
    else
      String.ofList (ds.take (place + 1).toNat) ++ "." ++ String.ofList (ds.drop (place + 1).toNat)
  else
    String.ofList (ds.take 1) ++
      (if ds.length = 1 then layout.lonePoint else "." ++ String.ofList (ds.drop 1)) ++
      exponentText place

end Decimal

namespace Binary64

def write (layout : NumberLayout) : Binary64 → String
  | .finite s m e =>
    (if s then "-" else "") ++
      (if m = 0 then "0.0" else (Decimal.shortest m e).write layout)
  | .infinite s => (if s then "-" else "") ++ layout.infinity
  | .nan => layout.notANumber

end Binary64

end WorkspaceImport
