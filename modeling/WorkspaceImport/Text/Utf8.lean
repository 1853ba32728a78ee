/-!
Decoding of UTF-8. Bytes that are no text are refused at the first sequence that cannot be completed,
and the refusal says which bytes these are.
-/
namespace WorkspaceImport.Text

inductive Utf8Cause where
  | startByte
  | continuationByte
  | endOfData
  deriving DecidableEq

structure Utf8Fault where
  cause : Utf8Cause
  first : UInt8
  start : Nat
  length : Nat
  deriving DecidableEq

def isContinuation (b : UInt8) : Bool :=
  0x80 ≤ b && b < 0xC0

def sequenceLength? (b : UInt8) : Option Nat :=
  if b < 0x80 then some 1
  else if b < 0xC2 then none
  else if b < 0xE0 then some 2
  else if b < 0xF0 then some 3
  else if b < 0xF5 then some 4
  else none

/-- Whether a second byte may follow a first one: no character has two spellings, surrogates have
none, and the last plane ends early. -/
def isSecond (first second : UInt8) : Bool :=
  isContinuation second && !(first == 0xE0 && second < 0xA0) && !(first == 0xED && 0xA0 ≤ second) &&
    !(first == 0xF0 && second < 0x90) && !(first == 0xF4 && 0x90 ≤ second)

/-- How many bytes at the front belong together, and what is wrong with them if they are not
`wanted` ones. -/
def checkSequence (first : UInt8) (wanted : Nat) (rest : List UInt8) : Option (Utf8Cause × Nat) :=
  match rest.take (wanted - 1) with
  | [] => if wanted = 1 then none else some (.endOfData, 1)
  | second :: more =>
    if !isSecond first second then some (.continuationByte, 1)
    else
      let good := more.takeWhile isContinuation
      if good.length < more.length then some (.continuationByte, 2 + good.length)
      else if more.length + 2 < wanted then some (.endOfData, 2 + more.length)
      else none

def firstFault? (position skip : Nat) : List UInt8 → Option Utf8Fault
  | [] => none
  | b :: rest =>
    match skip with
    | skip + 1 => firstFault? (position + 1) skip rest
    | 0 =>
      match sequenceLength? b with
      | none => some ⟨.startByte, b, position, 1⟩
      | some wanted =>
        match checkSequence b wanted rest with
        | some (cause, length) => some ⟨cause, b, position, length⟩
        | none => firstFault? (position + 1) (wanted - 1) rest

def decodeUtf8 (bytes : ByteArray) : Except Utf8Fault String :=
  match String.fromUTF8? bytes with
  | some s => .ok s
  | none => .error ((firstFault? 0 0 bytes.toList).getD ⟨.endOfData, 0, bytes.size, 0⟩)

end WorkspaceImport.Text
