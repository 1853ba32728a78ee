import WorkspaceImport.Shell.Expansion
/-!
Redirections. The words of all of them get their values first; then they are opened from left to right,
and the first one that cannot be opened is complained about where complaints go by then.
-/
namespace WorkspaceImport.Shell

inductive Target where
  | path (kind : RedirectionKind) (path : String)
  | text (content : String)
  | stream (number : Nat)
  | closed

namespace Run

def streamAt? (path : String) : Option Nat :=
  match path with
  | "/dev/stdin" => some 0
  | "/dev/stdout" => some 1
  | "/dev/stderr" => some 2
  | _ =>
    if path.startsWith "/dev/fd/" then (String.ofList (path.toList.drop 8)).toNat? else none

def openPath (kind : RedirectionKind) (path : String) : Run (Except OsCause Nat) := do
  let s ← get
  match streamAt? path with
  | some n =>
    match valueAt? n s.streams with
    | some channel => pure (.ok channel)
    | none => pure (.error .notFound)
  | none =>
    if path = "/dev/null" then return .ok (← addChannel .nowhere)
    else if kind = .input then
      match s.find path with
      | .error cause => pure (.error cause)
      | .ok (place, _) => return .ok (← addChannel (.file place 0 true false false))
    else
      match s.findTarget path with
      | .error cause => pure (.error cause)
      | .ok (_, some (.directory _)) => pure (.error .isDirectory)
      | .ok (place, old) =>
        if old.isNone && path.endsWith "/" then pure (.error .isDirectory)
        else if old.isSome && kind = .output && s.hasOption 'C' then pure (.error .exists)
        else
          if old.isNone || kind = .output || kind = .clobber then
            set { s with files := { s.files with root := s.files.root.put (.file .empty) place } }
          return .ok (← addChannel (.file place 0 (kind = .both) true (kind = .append)))

def targetOf (substitute : Command → Run String) : Redirection → Run (Nat × Target)
  | .mk stream (.document number) _ => do
    let word := (valueAt? number (← get).documents).getD []
    return (stream, .text (← documentOf substitute word))
  | .mk stream .duplicate word => do
    let text ← textOf substitute false word
    match text.toList with
    | ['-'] => pure (stream, .closed)
    | [c] => if isDigit c then pure (stream, .stream (c.toNat - 48)) else badNumber
    | _ => badNumber
  | .mk stream kind word => do
    return (stream, .path kind (← textOf substitute false word))
where
  badNumber : Run (Nat × Target) := refuse "Syntax error: Bad fd number"

def setStream (stream channel : Nat) : Run Unit :=
  modify fun s => { s with streams := putEntry stream channel s.streams }

def closeStream (stream : Nat) : Run Unit :=
  modify fun s => { s with streams := s.streams.filter (·.1 ≠ stream) }

def openMessage (kind : RedirectionKind) (path : String) (cause : OsCause) : String :=
  let isMissing := cause = .notFound || cause = .notDirectory
  if kind = .input then
    "cannot open " ++ path ++ ": " ++ if isMissing then "No such file" else systemMessage cause
  else
    "cannot create " ++ path ++ ": " ++
      if isMissing then "Directory nonexistent" else systemMessage cause

def openTarget (stream : Nat) : Target → Run Bool
  | .path kind path => do
    match ← openPath kind path with
    | .ok channel =>
      setStream stream channel
      pure true
    | .error cause =>
      complain (openMessage kind path cause)
      pure false
  | .text content => do
    setStream stream (← addChannel (.pipe (toBytes content) 0))
    pure true
  | .stream number => do
    match ← channelOf? number with
    | some channel =>
      setStream stream channel
      pure true
    | none =>
      complain (toString number ++ ": Bad file descriptor")
      pure false
  | .closed => do
    closeStream stream
    pure true

def openTargets : List (Nat × Target) → Run Bool
  | [] => pure true
  | (stream, target) :: rest => do
    if ← openTarget stream target then openTargets rest else pure false

end Run

end WorkspaceImport.Shell
