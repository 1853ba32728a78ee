import WorkspaceImport.Files.Tree
import WorkspaceImport.Shell.Bytes
import WorkspaceImport.Shell.Syntax
/-!
A shell in the middle of a script: its variables and functions, the files, and the channels behind its
streams. A channel keeps its position, so that programs that share it go on where another one stopped.
-/
namespace WorkspaceImport.Shell

inductive Channel where
  | pipe (bytes : ByteArray) (position : Nat)
  | file (place : List String) (position : Nat) (mayRead mayWrite appends : Bool)
  | nowhere

structure Variable where
  value : Option String
  isExported : Bool
  isReadOnly : Bool

inductive Stop where
  | exited (status : Nat)
  | failed (status : Nat)
  | returned
  | broke (levels : Nat)
  | continued (levels : Nat)
  | killed (signal : Nat)

structure State where
  files : FileTree
  channels : Array Channel
  streams : List (Nat × Nat)
  vars : List (String × Variable)
  functions : List (String × Command)
  locals : List (List (String × Option Variable))
  name : String
  command : String
  arguments : List String
  options : List Char
  status : Nat
  substituted : Nat
  traps : List (String × String)
  documents : List (Nat × Word)
  nextDocument : Nat
  line : Nat
  loops : Nat
  isSubshell : Bool
  pendingSignal : Option Nat
  jobs : List (Nat × Nat)
  optionPlace : Nat

abbrev Run := EStateM Stop State

def wordsLength (words : List String) : Nat :=
  words.foldr (fun w rest => w.length + 1 + rest) 0

namespace State

def ownNumber : Nat := 4021

def hasOption (s : State) (c : Char) : Bool :=
  s.options.contains c

def valueOf? (s : State) (name : String) : Option String :=
  (valueAt? name s.vars).bind (·.value)

def separators (s : State) : List Char :=
  match s.valueOf? "IFS" with
  | some text => text.toList
  | none => [' ', '\t', '\n']

def find (s : State) (path : String) : Except OsCause (List String × Entry) :=
  if path.isEmpty then .error .notFound
  else do
    let place ← s.files.locate (pathOf path)
    match s.files.root.get? place with
    | none => throw .notFound
    | some e =>
      if path.endsWith "/" && !e.isDirectory then throw .notDirectory else pure (place, e)

def findTarget (s : State) (path : String) : Except OsCause (List String × Option Entry) :=
  if path.isEmpty then .error .notFound
  else do
    match ← s.files.parentPlace (pathOf path) with
    | (place, none) => pure (place, s.files.root.get? place)
    | (place, some last) =>
      let place := place ++ [last]
      match s.files.root.get? place with
      | none => pure (place, none)
      | some e =>
        if path.endsWith "/" && !e.isDirectory then throw .notDirectory else pure (place, some e)

def bucket (name : String) : Nat :=
  let first := (name.toList.head?.map Char.toNat).getD 0
  (name.toList.foldl (fun n c => n + c.toNat) (16 * first)) % 39

def ownVariables : List String :=
  ["OPTIND", "PS4", "PS2", "PS1", "PATH", "MAILPATH", "MAIL", "IFS", "ATTY", "LINENO", "TERM",
    "HISTSIZE"]

def inBuckets {α : Type} (entries : List (String × α)) : List (String × α) :=
  (List.range 39).flatMap fun n =>
    let here := entries.filter fun e => bucket e.1 = n
    here.filter (fun e => ownVariables.contains e.1) ++
      here.filter fun e => !ownVariables.contains e.1

def environment (s : State) : List (String × String) :=
  (inBuckets s.vars).filterMap fun (name, v) =>
    if v.isExported then v.value.map fun text => (name, text) else none

end State

namespace Run

def status : Run Nat := do
  return (← get).status

def setStatus (n : Nat) : Run Unit :=
  modify fun s => { s with status := n }

def addChannel (c : Channel) : Run Nat :=
  modifyGet fun s => (s.channels.size, { s with channels := s.channels.push c })

def channelOf? (stream : Nat) : Run (Option Nat) := do
  return valueAt? stream (← get).streams

def overwrite (content bytes : ByteArray) (position : Nat) : ByteArray :=
  let gap : ByteArray := ⟨Array.replicate (position - content.size) 0⟩
  content.extract 0 position ++ gap ++ bytes ++
    content.extract (position + bytes.size) content.size

def writeTo (channel : Nat) (bytes : ByteArray) : Run Bool := do
  let s ← get
  match s.channels[channel]? with
  | some (.pipe ..) =>
    modify fun s =>
      { s with channels := s.channels.modify channel fun c =>
          match c with
          | .pipe old position => .pipe (old ++ bytes) position
          | c => c }
    pure true
  | some .nowhere => pure true
  | some (.file place position mayRead mayWrite appends) =>
    if !mayWrite then pure false
    else
      let content :=
        match s.files.root.get? place with
        | some (.file content) => content
        | _ => .empty
      let position := if appends then content.size else position
      let entry := Entry.file (overwrite content bytes position)
      set { s with
        files := { s.files with root := s.files.root.put entry place }
        channels := s.channels.set! channel
          (.file place (position + bytes.size) mayRead mayWrite appends) }
      pure true
  | none => pure false

def write (stream : Nat) (text : String) : Run Bool := do
  match ← channelOf? stream with
  | some channel => writeTo channel (toBytes text)
  | none => pure false

def print (text : String) : Run Unit := do
  discard (write 1 text)

def printError (text : String) : Run Unit := do
  discard (write 2 text)

def unread (stream : Nat) : Run (Except OsCause (Nat × ByteArray × Nat)) := do
  let s ← get
  match valueAt? stream s.streams with
  | none => pure (.error .badStream)
  | some channel =>
    match s.channels[channel]? with
    | some (.pipe bytes position) => pure (.ok (channel, bytes, position))
    | some (.file place position true _ _) =>
      match s.files.root.get? place with
      | some (.file content) => pure (.ok (channel, content, position))
      | some (.directory _) => pure (.error .isDirectory)
      | none => pure (.ok (channel, .empty, 0))
    | some (.file ..) => pure (.error .badStream)
    | _ => pure (.ok (channel, .empty, 0))

def seek (channel position : Nat) : Run Unit :=
  modify fun s =>
    { s with channels := s.channels.modify channel fun c =>
        match c with
        | .pipe bytes _ => .pipe bytes position
        | .file place _ mayRead mayWrite appends => .file place position mayRead mayWrite appends
        | .nowhere => .nowhere }

def readAll (stream : Nat) : Run (Except OsCause String) := do
  match ← unread stream with
  | .error cause => pure (.error cause)
  | .ok (channel, bytes, position) =>
    seek channel bytes.size
    pure (.ok (ofBytes (bytes.toList.drop position)))

def readLine (stream : Nat) : Run (Option (List Char × Bool)) := do
  match ← unread stream with
  | .error _ => pure none
  | .ok (channel, bytes, position) =>
    let left := (ofBytes (bytes.toList.drop position)).toList
    let line := left.takeWhile (· ≠ '\n')
    let isEnded := line.length < left.length
    seek channel (position + line.length + if isEnded then 1 else 0)
    pure (some (line, isEnded))

def complain (message : String) : Run Unit := do
  let s ← get
  let command := if s.command.isEmpty then "" else s.command ++ ": "
  printError (s.name ++ ": " ++ toString s.line ++ ": " ++ command ++ message ++ "\n")

def refuse {α : Type} (message : String) : Run α := do
  complain message
  throw (.failed 2)

def setVariable (name value : String) (exports : Bool) : Run Unit := do
  let s ← get
  match valueAt? name s.vars with
  | some v =>
    if v.isReadOnly then refuse (name ++ ": is read only")
    else
      let v := { v with value := some value, isExported := v.isExported || exports }
      set { s with vars := putEntry name v s.vars }
  | none =>
    let exports := exports || s.hasOption 'a'
    let v := Variable.mk (some value) exports false
    set { s with vars := s.vars ++ [(name, v)] }

def unsetVariable (name : String) : Run Unit := do
  let s ← get
  match valueAt? name s.vars with
  | some v =>
    if v.isReadOnly then refuse (name ++ ": is read only")
    else set { s with vars := s.vars.filter (·.1 ≠ name) }
  | none => pure ()

def restoreVariable (name : String) (old : Option Variable) : Run Unit :=
  modify fun s =>
    { s with vars :=
        match old with
        | some v => putEntry name v s.vars
        | none => s.vars.filter (·.1 ≠ name) }

def keepingStreams {α : Type} (action : Run α) : Run α := do
  let streams := (← get).streams
  try
    let a ← action
    modify fun s => { s with streams := streams }
    pure a
  catch stop =>
    modify fun s => { s with streams := streams }
    throw stop

end Run

def systemMessage : OsCause → String
  | .notFound => "No such file or directory"
  | .notDirectory => "Not a directory"
  | .isDirectory => "Is a directory"
  | .exists => "File exists"
  | .notEmpty => "Directory not empty"
  | .busy => "Device or resource busy"
  | .nameTooLong => "File name too long"
  | .nullByte => "Invalid argument"
  | .denied => "Permission denied"
  | .badStream => "Bad file descriptor"

end WorkspaceImport.Shell
