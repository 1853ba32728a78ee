import WorkspaceImport.Shell.Quoting
import WorkspaceImport.Shell.State
/-!
How programs of the system are used: their options, and what they say when something is wrong. Options
may stand among the other words unless a program takes a command for its last words.
-/
namespace WorkspaceImport.Shell

abbrev Action := List String → Run Nat

namespace Program

def isUnicode : Run Bool := do
  let s ← get
  let value (name : String) : Option String := (s.valueOf? name).filter (!·.isEmpty)
  let locale := ((value "LC_ALL").orElse fun _ => (value "LC_CTYPE").orElse fun _ => value "LANG").getD ""
  return locale = "C.UTF-8" || locale = "C.utf8"

def quoted (s : String) : Run String := do
  return quoteMarked (← isUnicode) s

def shellQuoted (s : String) : Run String := do
  return quoteForShell (← isUnicode) true s

def note (message : String) : Run Unit := do
  Run.printError ((← get).name ++ ": " ++ message ++ "\n")

def fail {α : Type} (message : String) (status : Nat) : Run α := do
  note message
  throw (.exited status)

def misuse {α : Type} (message : String) (status : Nat) : Run α := do
  note message
  Run.printError ("Try '" ++ (← get).name ++ " --help' for more information.\n")
  throw (.exited status)

structure Switch where
  letter : Char
  name : String
  takesWord : Bool

structure Use where
  options : List (Char × String)
  words : List String

namespace Use

def has (u : Use) (c : Char) : Bool :=
  u.options.any (·.1 = c)

def word? (u : Use) (c : Char) : Option String :=
  (u.options.reverse.find? (·.1 = c)).map (·.2)

def last? (u : Use) (letters : List Char) : Option Char :=
  ((u.options.filter fun e => letters.contains e.1).getLast?).map (·.1)

end Use

def switches (letters : String) : List Switch :=
  letters.toList.map fun c => ⟨c, "", false⟩

def taking (letter : Char) (name : String) : Switch :=
  ⟨letter, name, true⟩

def longMatches (known : List Switch) (name : String) : List Switch :=
  match known.find? fun o => o.name = name && !o.name.isEmpty with
  | some o => [o]
  | none => known.filter fun o => !o.name.isEmpty && o.name.startsWith name

/-- The options among words. `stopsEarly` says that the first other word ends them; `status` is that of
a wrong use. What is found is kept newest first. -/
def useFrom (known : List Switch) (stopsEarly : Bool) (status : Nat) (options : List (Char × String))
    (others : List String) : Nat → List String → Run Use
  | 0, words => pure ⟨options.reverse, others.reverse ++ words⟩
  | _, [] => pure ⟨options.reverse, others.reverse⟩
  | fuel + 1, word :: rest =>
    match word.toList with
    | ['-', '-'] => pure ⟨options.reverse, others.reverse ++ rest⟩
    | '-' :: '-' :: long =>
      let name := String.ofList (long.takeWhile (· ≠ '='))
      let value? : Option String :=
        if long.contains '=' then some (String.ofList (long.drop (name.length + 1))) else none
      match longMatches known name with
      | [o] =>
        match o.takesWord, value?, rest with
        | true, some value, _ =>
          useFrom known stopsEarly status ((o.letter, value) :: options) others fuel rest
        | true, none, value :: rest =>
          useFrom known stopsEarly status ((o.letter, value) :: options) others fuel rest
        | true, none, [] => misuse ("option '--" ++ o.name ++ "' requires an argument") status
        | false, none, _ =>
          useFrom known stopsEarly status ((o.letter, "") :: options) others fuel rest
        | false, some _, _ => misuse ("option '--" ++ o.name ++ "' doesn't allow an argument") status
      | _ => misuse ("unrecognized option '" ++ word ++ "'") status
    | '-' :: c :: letters =>
      match known.find? (·.letter = c) with
      | none => misuse ("invalid option -- '" ++ String.singleton c ++ "'") status
      | some o =>
        if !o.takesWord then
          let rest := if letters.isEmpty then rest else String.ofList ('-' :: letters) :: rest
          useFrom known stopsEarly status ((c, "") :: options) others fuel rest
        else if !letters.isEmpty then
          useFrom known stopsEarly status ((c, String.ofList letters) :: options) others fuel rest
        else
          match rest with
          | value :: rest =>
            useFrom known stopsEarly status ((c, value) :: options) others fuel rest
          | [] => misuse ("option requires an argument -- '" ++ String.singleton c ++ "'") status
    | _ =>
      if stopsEarly then pure ⟨options.reverse, others.reverse ++ word :: rest⟩
      else useFrom known stopsEarly status options (word :: others) fuel rest

def use (known : List Switch) (stopsEarly : Bool) (status : Nat) (words : List String) : Run Use :=
  useFrom known stopsEarly status [] [] (wordsLength words) words

def contentOf (word : String) : Run (Except OsCause String) := do
  if word = "-" then Run.readAll 0
  else
    match (← get).find word with
    | .error cause =>
      match streamOf? word with
      | some n => Run.readAll n
      | none => pure (if word = "/dev/null" then .ok "" else .error cause)
    | .ok (_, .directory _) => pure (.error .isDirectory)
    | .ok (_, .file content) => pure (.ok (ofBytes content.toList))
where
  streamOf? (path : String) : Option Nat :=
    if path = "/dev/stdin" || path = "/dev/fd/0" then some 0 else none

/-- The contents of files, or of the input where none is named. Those that cannot be read are complained
about by `complaint`; the answer is the contents with their names, and whether all could be read. -/
def contents (complaint : String → OsCause → Run Unit) :
    List String → Run (List (String × String) × Bool)
  | [] => pure ([], true)
  | word :: rest => do
    match ← contentOf word with
    | .ok text =>
      let (more, isGood) ← contents complaint rest
      pure ((word, text) :: more, isGood)
    | .error cause =>
      complaint word cause
      let (more, _) ← contents complaint rest
      pure (more, false)

def plainComplaint (word : String) (cause : OsCause) : Run Unit :=
  note (word ++ ": " ++ systemMessage cause)

def openComplaint (word : String) (cause : OsCause) : Run Unit := do
  let shown ← shellQuoted word
  if cause = .isDirectory then note ("error reading " ++ shown ++ ": Is a directory")
  else note ("cannot open " ++ shown ++ " for reading: " ++ systemMessage cause)

def orInput (words : List String) : List String :=
  if words.isEmpty then ["-"] else words

def linesOf (cs : List Char) : List (List Char) :=
  go [] cs
where
  go (line : List Char) : List Char → List (List Char)
    | [] => if line.isEmpty then [] else [line.reverse]
    | c :: rest => if c = '\n' then (c :: line).reverse :: go [] rest else go (c :: line) rest

def bareLines (s : String) : List String :=
  (linesOf s.toList).map fun l => String.ofList (l.filter (· ≠ '\n'))

def statusOf (isGood : Bool) : Nat :=
  if isGood then 0 else 1

end Program

end WorkspaceImport.Shell
