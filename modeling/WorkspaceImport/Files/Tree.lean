import WorkspaceImport.Files.Path
import WorkspaceImport.OrderedMap
import WorkspaceImport.Text.Lines
import WorkspaceImport.Text.Quoted
import WorkspaceImport.Text.Utf8
/-!
A tree of directories and files in memory, and the operations on it that can fail. Paths are followed
one segment after the other, so that `..` is taken where it stands and every segment on the way has to
be a directory.
-/
namespace WorkspaceImport

inductive Entry where
  | file (content : ByteArray)
  | directory (children : List (String × Entry))
  deriving Inhabited

inductive OsCause where
  | notFound
  | notDirectory
  | isDirectory
  | exists
  | notEmpty
  | busy
  | nameTooLong
  | nullByte
  | denied
  | badStream
  deriving DecidableEq

structure OsError where
  cause : OsCause
  path : String
  deriving DecidableEq

namespace Entry

def emptyDirectory : Entry :=
  .directory []

def isDirectory : Entry → Bool
  | .directory _ => true
  | .file _ => false

def get? (t : Entry) : List String → Option Entry
  | [] => some t
  | name :: rest =>
    match t with
    | .file _ => none
    | .directory children => (valueAt? name children).bind (get? · rest)

def size : Entry → Nat
  | .file content => content.size
  | .directory _ => 0

/-- The tree with an entry at the end of a list of names; directories that are missing on the way
are made, and a file on the way stays as it is. -/
def put (t : Entry) (e : Entry) : List String → Entry
  | [] => e
  | name :: rest =>
    match t with
    | .file content => .file content
    | .directory children =>
      .directory (putEntry name (put ((valueAt? name children).getD emptyDirectory) e rest) children)

def erase (t : Entry) : List String → Entry
  | [] => t
  | [name] =>
    match t with
    | .file content => .file content
    | .directory children => .directory (children.filter (·.1 ≠ name))
  | name :: rest =>
    match t with
    | .file content => .file content
    | .directory children =>
      match valueAt? name children with
      | none => .directory children
      | some child => .directory (putEntry name (erase child rest) children)

def step (t : Entry) (place : List String) (segment : String) : Except OsCause (List String) :=
  match t.get? place with
  | some (.directory children) =>
    if segment = ".." then .ok place.dropLast
    else if 255 < segment.utf8ByteSize then .error .nameTooLong
    else if (valueAt? segment children).isSome then .ok (place ++ [segment])
    else .error .notFound
  | some (.file _) => .error .notDirectory
  | none => .error .notFound

def locate (t : Entry) (segments : List String) : Except OsCause (List String) :=
  segments.foldlM (step t) []

end Entry

/-- The tree from the root on, and the names of the current directory. -/
structure FileTree where
  root : Entry
  here : List String

namespace FileTree

def pathLimit : Nat := 4095

def segmentsOf (t : FileTree) (p : Path) : List String :=
  if p.isAbsolute then p.segments else t.here ++ p.segments

def spellingFault? (p : Path) : Option OsCause :=
  if p.segments.any fun s => s.toList.contains '\x00' then some .nullByte
  else if pathLimit < p.text.utf8ByteSize then some .nameTooLong
  else none

def locate (t : FileTree) (p : Path) : Except OsCause (List String) :=
  match spellingFault? p with
  | some cause => .error cause
  | none => t.root.locate (t.segmentsOf p)

def lookup (t : FileTree) (p : Path) : Except OsCause Entry := do
  match t.root.get? (← t.locate p) with
  | some e => pure e
  | none => .error .notFound

/-- What is at a path, if there is anything. A name that is too long cannot even be asked for. -/
def probe (t : FileTree) (p : Path) : Except OsError (Option Entry) :=
  match t.lookup p with
  | .ok e => .ok (some e)
  | .error .nameTooLong => .error ⟨.nameTooLong, p.text⟩
  | .error _ => .ok none

def isFile (t : FileTree) (p : Path) : Except OsError Bool :=
  (t.probe p).map fun found => found.any fun e => !e.isDirectory

def isDirectory (t : FileTree) (p : Path) : Except OsError Bool :=
  (t.probe p).map fun found => found.any Entry.isDirectory

def pathExists (t : FileTree) (p : Path) : Except OsError Bool :=
  (t.probe p).map Option.isSome

def readBytes (t : FileTree) (p : Path) : Except OsError ByteArray :=
  match t.lookup p with
  | .ok (.file content) => .ok content
  | .ok (.directory _) => .error ⟨.isDirectory, p.text⟩
  | .error cause => .error ⟨cause, p.text⟩

end FileTree

inductive ReadFault where
  | os (error : OsError)
  | encoding (fault : Text.Utf8Fault)
  deriving DecidableEq

namespace FileTree

def readText (t : FileTree) (p : Path) : Except ReadFault String :=
  match t.readBytes p with
  | .error e => .error (.os e)
  | .ok bytes =>
    match Text.decodeUtf8 bytes with
    | .error fault => .error (.encoding fault)
    | .ok s => .ok (Text.unixNewlines s)

abbrev Action := EStateM OsError FileTree

/-- The place of the directory that a path stands in, and the name of the path there. A path that
ends in `..` or in nothing names a directory, which exists. -/
def parentPlace (t : FileTree) (p : Path) : Except OsCause (List String × Option String) :=
  match spellingFault? p with
  | some cause => .error cause
  | none => do
    match p.segments.getLast? with
    | none => pure (← t.locate p, none)
    | some ".." => pure (← t.locate p, none)
    | some last =>
      let place ← t.root.locate ((t.segmentsOf p).dropLast)
      match t.root.get? place with
      | some (.directory _) =>
        if 255 < last.utf8ByteSize then .error .nameTooLong else pure (place, some last)
      | some (.file _) => .error .notDirectory
      | none => .error .notFound

def makeDirectory (p : Path) : Action Unit := do
  let t ← get
  match t.parentPlace p with
  | .error cause => throw ⟨cause, p.text⟩
  | .ok (_, none) => throw ⟨.exists, p.text⟩
  | .ok (place, some last) =>
    if (t.root.get? (place ++ [last])).isSome then throw ⟨.exists, p.text⟩
    else set { t with root := t.root.put .emptyDirectory (place ++ [last]) }

def ensureDirectory (p : Path) : Action Unit := do
  try makeDirectory p
  catch e =>
    if e.cause = .notFound then throw e
    else
      match (← get).isDirectory p with
      | .ok true => pure ()
      | _ => throw e

/-- Making a directory and all directories above it that are missing. `depth` is the number of
segments of the path that may be taken off. -/
def ensureDirectories (p : Path) : Nat → Action Unit
  | 0 => ensureDirectory p
  | depth + 1 => do
    try ensureDirectory p
    catch e =>
      if e.cause = .notFound then
        ensureDirectories p.parent depth
        ensureDirectory p
      else throw e

def freshName (taken : List String) : Nat → String
  | 0 => "tmp.tmp"
  | n + 1 =>
    let name := "tmp" ++ toString n ++ ".tmp"
    if taken.contains name then freshName taken n else name

def childNames (t : FileTree) (place : List String) : List String :=
  match t.root.get? place with
  | some (.directory children) => children.map (·.1)
  | _ => []

/-- Putting a file in the place of a path. What was there is replaced unless it is a directory. -/
def replaceBy (source : List String) (p : Path) : Action Unit := do
  let t ← get
  match t.root.get? source, t.parentPlace p with
  | none, _ => throw ⟨.notFound, p.text⟩
  | _, .error cause => throw ⟨cause, p.text⟩
  | _, .ok (_, none) => throw ⟨.busy, p.text⟩
  | some e, .ok (place, some last) =>
    match t.root.get? (place ++ [last]) with
    | some (.directory _) => throw ⟨.isDirectory, p.text⟩
    | _ => set { t with root := (t.root.erase source).put e (place ++ [last]) }

/-- How many bytes the absolute path of a temporary file in a directory has: its name is eight characters
between `tmp` and `.tmp`. `p` is the path that led to the directory. -/
def temporarySize (p : Path) (place : List String) : Nat :=
  let root := if p.root = .twoSlashes then .twoSlashes else .slash
  (Path.mk root (place ++ ["tmp________.tmp"])).text.utf8ByteSize

/-- Giving a path a whole new file at once, with the bytes that writing came to: they go to a temporary
file in the same directory, which then takes the place of the path. When writing or the replacement
is refused, the temporary file is removed. -/
def replaceWhole (p : Path) (written : Except OsError ByteArray) : Action Unit := do
  ensureDirectories p.parent p.segments.length
  let t ← get
  match t.locate p.parent with
  | .error cause => throw ⟨cause, p.parent.text⟩
  | .ok place =>
    if pathLimit < temporarySize p place then throw ⟨.nameTooLong, p.parent.text⟩
    else
      let taken := t.childNames place
      let fresh := place ++ [freshName taken (taken.length + 1)]
      set { t with root := t.root.put (.file .empty) fresh }
      try
        match written with
        | .error e => throw e
        | .ok content =>
          modify fun t => { t with root := t.root.put (.file content) fresh }
          replaceBy fresh p
      catch e =>
        modify fun t => { t with root := t.root.erase fresh }
        throw e

def writeAtomic (p : Path) (content : String) : Action Unit :=
  replaceWhole p (.ok content.toUTF8)

def writeFile (p : Path) (content : ByteArray) : Action Unit := do
  ensureDirectories p.parent p.segments.length
  let t ← get
  match t.parentPlace p with
  | .error cause => throw ⟨cause, p.text⟩
  | .ok (_, none) => throw ⟨.isDirectory, p.text⟩
  | .ok (place, some last) =>
    match t.root.get? (place ++ [last]) with
    | some (.directory _) => throw ⟨.isDirectory, p.text⟩
    | _ => set { t with root := t.root.put (.file content) (place ++ [last]) }

def removeFile (p : Path) : Action Unit := do
  let t ← get
  match t.locate p with
  | .error cause => throw ⟨cause, p.text⟩
  | .ok place =>
    match t.root.get? place with
    | some (.file _) => set { t with root := t.root.erase place }
    | _ => throw ⟨.isDirectory, p.text⟩

/-- The parts of an operation that an observer needs: what it answered and the tree after it. -/
def perform {α : Type} (t : FileTree) (action : Action α) : Except OsError α × FileTree :=
  match action.run t with
  | .ok a t => (.ok a, t)
  | .error e t => (.error e, t)

end FileTree

namespace Entry

mutual

/-- All paths below an entry, directories with a slash at the end, in no particular order. -/
def listing (place : String) : Entry → List String
  | .file _ => []
  | .directory children => listingOf place children

def listingOf (place : String) : List (String × Entry) → List String
  | [] => []
  | (name, .file _) :: rest => (place ++ name) :: listingOf place rest
  | (name, .directory children) :: rest =>
    (place ++ name ++ "/") :: (listing (place ++ name ++ "/") (.directory children) ++
      listingOf place rest)

end

end Entry

namespace OsCause

def message : OsCause → String
  | .notFound => "[Errno 2] No such file or directory"
  | .notDirectory => "[Errno 20] Not a directory"
  | .isDirectory => "[Errno 21] Is a directory"
  | .exists => "[Errno 17] File exists"
  | .notEmpty => "[Errno 39] Directory not empty"
  | .busy => "[Errno 16] Device or resource busy"
  | .nameTooLong => "[Errno 36] File name too long"
  | .nullByte => "embedded null byte"
  | .denied => "[Errno 13] Permission denied"
  | .badStream => "[Errno 9] Bad file descriptor"

end OsCause

def OsError.message (e : OsError) : String :=
  if e.cause = .nullByte then e.cause.message
  else e.cause.message ++ ": " ++ Text.quoted e.path

def Text.Utf8Fault.message (fault : Text.Utf8Fault) : String :=
  let reason :=
    match fault.cause with
    | .startByte => "invalid start byte"
    | .continuationByte => "invalid continuation byte"
    | .endOfData => "unexpected end of data"
  let place :=
    if fault.length = 1 then
      "byte 0x" ++ String.ofList (Text.hexDigits 2 fault.first.toNat) ++ " in position " ++
        toString fault.start
    else
      "bytes in position " ++ toString fault.start ++ "-" ++
        toString (fault.start + fault.length - 1)
  "'utf-8' codec can't decode " ++ place ++ ": " ++ reason

def ReadFault.message : ReadFault → String
  | .os e => e.message
  | .encoding fault => fault.message

end WorkspaceImport
