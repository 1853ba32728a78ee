/-!
Bytes written with the sixty-four characters of base64. Four characters stand for three bytes;
characters outside the alphabet are passed over, and padding that completes a group ends the text.
-/
namespace WorkspaceImport.Text.Base64

def sixBits? (c : Char) : Option Nat :=
  let n := c.toNat
  if 'A' ≤ c ∧ c ≤ 'Z' then some (n - 65)
  else if 'a' ≤ c ∧ c ≤ 'z' then some (n - 71)
  else if '0' ≤ c ∧ c ≤ '9' then some (n + 4)
  else if c = '+' then some 62
  else if c = '/' then some 63
  else none

/-- A group on its way: how many characters of it were read, and the bits that make no byte yet. -/
structure Group where
  count : Nat
  bits : Nat

def Group.add (g : Group) (six : Nat) : Option UInt8 × Group :=
  match g.count with
  | 0 => (none, ⟨1, six⟩)
  | 1 => (some (UInt8.ofNat (g.bits * 4 + six / 16)), ⟨2, six % 16⟩)
  | 2 => (some (UInt8.ofNat (g.bits * 16 + six / 4)), ⟨3, six % 4⟩)
  | _ => (some (UInt8.ofNat (g.bits * 64 + six)), ⟨0, 0⟩)

/-- The bytes of a text after `done`, which holds bytes newest first; `pads` counts the padding in the
group. A group has to be complete, with padding or without. -/
def decodeFrom (done : List UInt8) (g : Group) (pads : Nat) : List Char → Option (List UInt8)
  | [] => if g.count = 0 then some done.reverse else none
  | c :: rest =>
    if c = '=' then
      if g.count < 2 then decodeFrom done g pads rest
      else if 4 ≤ g.count + pads + 1 then some done.reverse
      else decodeFrom done g (pads + 1) rest
    else
      match sixBits? c with
      | none => decodeFrom done g pads rest
      | some six =>
        match g.add six with
        | (some b, g) => decodeFrom (b :: done) g 0 rest
        | (none, g) => decodeFrom done g 0 rest

def decode (cs : List Char) : Option (List UInt8) :=
  decodeFrom [] ⟨0, 0⟩ 0 cs

end WorkspaceImport.Text.Base64
