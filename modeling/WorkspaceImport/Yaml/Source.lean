import WorkspaceImport.Text.Lines
import WorkspaceImport.Text.Utf8
import WorkspaceImport.Yaml.Cursor
/-!
Texts that are read piece by piece. What is wrong with a piece is noticed when the piece is fetched, so
a fault far inside a text stays unseen while nobody has come near it. The first two pieces are fetched
at once.
-/
namespace WorkspaceImport.Yaml

def pieceLength : Nat := 4096

def chunkLength : Nat := 8192

/-- Where every character of a text ends, in bytes, newest first. An end of a line is one character, and
a carriage return counts when the character after it is known. -/
def characterEnds (done : List Nat) (position : Nat) : List Char → List Nat
  | [] => done
  | '\r' :: '\n' :: rest => characterEnds ((position + 2) :: done) (position + 2) rest
  | c :: rest =>
    let stop := position + c.utf8Size
    let known := if c = '\r' then stop + rest.head?.elim 0 Char.utf8Size else stop
    characterEnds (known :: done) stop rest

/-- What was taken from a file so far: bytes, the characters in them, the same two numbers of the last
chunk, and the ends of the characters that are still to come. -/
structure Intake where
  bytes : Nat
  characters : Nat
  lastBytes : Nat
  lastCharacters : Nat
  ends : List Nat

namespace Intake

/-- How many bytes are taken when so many characters are wanted: as many as the last chunk would have
needed for them, if that is much. -/
def chunkSize (i : Intake) (wanted : Nat) : Nat :=
  let needed := if i.lastCharacters = 0 then wanted
    else max wanted (i.lastBytes * wanted / i.lastCharacters)
  max chunkLength needed

def take (i : Intake) (size : Nat) : Intake :=
  let bytes := i.bytes + size
  let found := (i.ends.takeWhile (· ≤ bytes)).length
  ⟨bytes, i.characters + found, size, found, i.ends.drop found⟩

def pieceOf (fault : Nat) (piece : Nat) : Nat → Intake → Nat
  | 0, _ => piece
  | fuel + 1, i =>
    let wanted := pieceLength * (piece + 1)
    if wanted ≤ i.characters then pieceOf fault (piece + 1) fuel i
    else
      let size := i.chunkSize (wanted - i.characters)
      if fault < i.bytes + size then piece else pieceOf fault piece fuel (i.take size)

end Intake

def beginsHalfPair (bytes : ByteArray) (start : Nat) : Bool :=
  bytes[start]? == some 0xED && bytes[start + 1]?.any fun b => 0xA0 ≤ b && b ≤ 0xBF

/-- The byte at which a fault is noticed. Bytes that lack their end are noticed when the file has come
to its end. -/
def noticedAt (bytes : ByteArray) (fault : Text.Utf8Fault) : Nat :=
  let atEnd := bytes.size + chunkLength
  match fault.cause with
  | .startByte => fault.start
  | .continuationByte =>
    if beginsHalfPair bytes fault.start then
      if fault.start + 2 < bytes.size then fault.start + 2 else atEnd
    else fault.start + fault.length
  | .endOfData => atEnd

def faultPiece (bytes : ByteArray) (fault : Text.Utf8Fault) : Nat :=
  let good := (bytes.extract 0 fault.start)
  let cs := ((String.fromUTF8? good).getD "").toList
  let ends := (characterEnds [] 0 cs).reverse
  Intake.pieceOf (noticedAt bytes fault) 0 (2 * bytes.size + 4) ⟨0, 0, 0, 0, ends⟩

/-- The characters of the pieces before the first one that holds a character which no document may
hold, and whether there is such a piece. -/
def allowedPieces (done : List Char) : Nat → List Char → List Char × Bool
  | 0, _ => (done.reverse, false)
  | fuel + 1, cs =>
    if cs.isEmpty then (done.reverse, false)
    else
      let piece := cs.take pieceLength
      if piece.all isAllowed then
        allowedPieces (piece.reverse ++ done) fuel (cs.drop pieceLength)
      else (done.reverse, true)

structure Source where
  text : List Char
  obstacle : Option Fault

namespace Source

/-- A source whose pieces are fetched when they are needed. An obstacle in the first two pieces is met
at once. -/
def ofPieces (cs : List Char) (obstacle : Option Fault) : Except Fault Source :=
  let (good, cutOff) := allowedPieces [] (cs.length + 1) cs
  if cutOff then
    if good.length < 2 * pieceLength then .error .malformed else .ok ⟨good, some .malformed⟩
  else .ok ⟨good, obstacle⟩

def ofBytes (bytes : ByteArray) : Except Fault Source :=
  match Text.decodeUtf8 bytes with
  | .ok s => ofPieces (Text.unixNewlines s).toList none
  | .error fault =>
    let piece := faultPiece bytes fault
    if piece < 2 then .error .undecodable
    else
      let good := (String.fromUTF8? (bytes.extract 0 fault.start)).getD ""
      ofPieces ((Text.unixNewlines good).toList.take (piece * pieceLength)) (some .undecodable)

end Source

end WorkspaceImport.Yaml
