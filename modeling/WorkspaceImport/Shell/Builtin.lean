import WorkspaceImport.Shell.Condition
import WorkspaceImport.Shell.Format
import WorkspaceImport.Shell.Redirection
/-!
The shell's own commands, apart from those that run other commands. They work on the state of the shell
and print to its streams; a wrong use is complained about and may end the script.
-/
namespace WorkspaceImport.Shell

def signals : List (Nat × String) :=
  [(1, "HUP"), (2, "INT"), (3, "QUIT"), (4, "ILL"), (5, "TRAP"), (6, "ABRT"), (7, "BUS"), (8, "FPE"),
    (9, "KILL"), (10, "USR1"), (11, "SEGV"), (12, "USR2"), (13, "PIPE"), (14, "ALRM"), (15, "TERM"),
    (16, "STKFLT"), (17, "CHLD"), (18, "CONT"), (19, "STOP"), (20, "TSTP"), (21, "TTIN"), (22, "TTOU"),
    (23, "URG"), (24, "XCPU"), (25, "XFSZ"), (26, "VTALRM"), (27, "PROF"), (28, "WINCH"), (29, "IO"),
    (30, "PWR"), (31, "SYS")]

def signalOf? (word : String) : Option Nat :=
  match word.toNat? with
  | some n => if n < 65 then some n else none
  | none =>
    if word = "EXIT" then some 0
    else (signals.find? fun e => e.2 = word.map Char.toUpper).map (·.1)

def signalName (n : Nat) : String :=
  if n = 0 then "EXIT" else ((signals.find? (·.1 = n)).map (·.2)).getD (toString n)

def isHarmless (signal : Nat) : Bool :=
  [17, 18, 19, 20, 21, 22, 23, 28].contains signal

def signalMessage? (signal : Nat) : Option String :=
  match signal with
  | 1 => some "Hangup"
  | 3 => some "Quit"
  | 4 => some "Illegal instruction"
  | 5 => some "Trace/breakpoint trap"
  | 6 => some "Aborted"
  | 7 => some "Bus error"
  | 8 => some "Floating point exception"
  | 9 => some "Killed"
  | 10 => some "User defined signal 1"
  | 11 => some "Segmentation fault"
  | 12 => some "User defined signal 2"
  | 14 => some "Alarm clock"
  | 15 => some "Terminated"
  | _ => none

def quotedValue (s : String) : String :=
  let cs := s.toList.flatMap fun c =>
    if c = '\x27' then ['\x27', '\x22', '\x27', '\x22', '\x27'] else [c]
  "'" ++ String.ofList cs ++ "'"

def optionNames : List (Char × String) :=
  [('e', "errexit"), ('f', "noglob"), ('I', "ignoreeof"), ('i', "interactive"), ('m', "monitor"),
    ('n', "noexec"), ('s', "stdin"), ('x', "xtrace"), ('v', "verbose"), ('V', "vi"), ('E', "emacs"),
    ('C', "noclobber"), ('a', "allexport"), ('b', "notify"), ('u', "nounset"), ('p', "privileged")]

namespace Run

def printed (text : String) : Run Nat := do
  if text.isEmpty then pure 0
  else if ← write 1 text then pure 0
  else
    complain ((← get).command ++ ": I/O error")
    pure 1

def countOf (word : String) : Run Nat := do
  match word.toNat? with
  | some n =>
    if word.toList.all isDigit && n < Nat.pow 2 31 then pure n else refuse ("Illegal number: " ++ word)
  | none => refuse ("Illegal number: " ++ word)

/-- The single letters of options at the front of words, and what is left. Letters with a colon after
them take a word. -/
def optionsOf (known : List (Char × Bool)) (done : List (Char × String)) :
    Nat → List String → Run (List (Char × String) × List String)
  | 0, words => pure (done.reverse, words)
  | _, [] => pure (done.reverse, [])
  | fuel + 1, word :: rest =>
    match word.toList with
    | ['-', '-'] => pure (done.reverse, rest)
    | '-' :: c :: letters =>
      match known.find? (·.1 = c) with
      | none => refuse ("Illegal option -" ++ String.singleton c)
      | some (_, true) =>
        if !letters.isEmpty then
          optionsOf known ((c, String.ofList letters) :: done) fuel rest
        else
          match rest with
          | value :: rest => optionsOf known ((c, value) :: done) fuel rest
          | [] => refuse ("No arg for -" ++ String.singleton c ++ " option")
      | some (_, false) =>
        let done := (c, "") :: done
        if letters.isEmpty then optionsOf known done fuel rest
        else optionsOf known done fuel (String.ofList ('-' :: letters) :: rest)
    | _ => pure (done.reverse, word :: rest)

def options (letters : List Char) (words : List String) :
    Run (List Char × List String) := do
  let size := wordsLength words
  let (found, rest) ← optionsOf (letters.map fun c => (c, false)) [] size words
  pure (found.map (·.1), rest)

def requireName (name : String) : Run Unit := do
  if !isName name.toList then refuse (name ++ ": bad variable name")

def nameAndValue (word : String) : String × Option String :=
  let cs := word.toList
  let name := cs.takeWhile (· ≠ '=')
  if name.length < cs.length then
    (String.ofList name, some (String.ofList (cs.drop (name.length + 1))))
  else (word, none)

def directoryText (t : FileTree) : String :=
  "/" ++ String.intercalate "/" (t.here.map spread)

def echo (words : List String) : Run Nat :=
  printed (echoText words)

def printf (words : List String) : Run Nat := do
  match ← options [] words with
  | (_, []) => refuse "usage: printf format [arg ...]"
  | (_, format :: rest) =>
    let (pieces, status) := formatted .shell false format rest
    let notes := pieces.filter (·.1 = 2)
    let text := String.join ((pieces.filter (·.1 = 1)).map (·.2))
    notes.forM fun e => complain e.2
    let printedStatus ← printed text
    pure (max status printedStatus)

def printDirectory (words : List String) : Run Nat := do
  let _ ← options ['L', 'P'] words
  printed (directoryText (← get).files ++ "\n")

def changeDirectory (words : List String) : Run Nat := do
  let (_, words) ← options ['L', 'P'] words
  let s ← get
  let wanted :=
    match words with
    | [] => (s.valueOf? "HOME").getD ""
    | "-" :: _ => (s.valueOf? "OLDPWD").getD ""
    | word :: _ => word
  let path := if wanted.isEmpty then "." else wanted
  match s.find path with
  | .ok (place, .directory _) =>
    let old := directoryText s.files
    set { s with files := { s.files with here := place } }
    setVariable "OLDPWD" old true
    let new := directoryText { s.files with here := place }
    setVariable "PWD" new true
    if words.head? = some "-" then printed (new ++ "\n") else pure 0
  | _ => refuse ("can't cd to " ++ wanted)

def leave (words : List String) : Run Nat := do
  match words with
  | [] => throw (.exited (← get).status)
  | word :: _ =>
    let n ← countOf word
    throw (.exited (n % 256))

def goBack (words : List String) : Run Nat := do
  match words with
  | [] => throw .returned
  | word :: _ =>
    setStatus (← countOf word)
    throw .returned

def leaveLoops (stop : Nat → Stop) (words : List String) : Run Nat := do
  let n ←
    match words with
    | [] => pure 1
    | word :: _ =>
      let n ← countOf word
      if n = 0 then refuse ("Illegal number: " ++ word) else pure n
  let n := min n (← get).loops
  if n = 0 then pure 0
  else
    setStatus 0
    throw (stop n)

def shift (words : List String) : Run Nat := do
  let n ← match words with | [] => pure 1 | word :: _ => countOf word
  let s ← get
  if s.arguments.length < n then refuse "can't shift that many"
  else
    set { s with arguments := s.arguments.drop n }
    pure 0

def listed (start : String) (entries : List (String × Variable)) : String :=
  let sorted := entries.mergeSort fun a b => a.1 ≤ b.1
  String.join (sorted.map fun e =>
    let value := match e.2.value with | some v => "=" ++ quotedValue v | none => ""
    start ++ e.1 ++ value ++ "\n")

def mark (change : Variable → Variable) : List String → Run Unit
  | [] => pure ()
  | word :: rest => do
    let (name, value) := nameAndValue word
    requireName name
    match value with
    | some text => setVariable name text false
    | none => pure ()
    let s ← get
    let old := (valueAt? name s.vars).getD ⟨none, false, false⟩
    set { s with vars := putEntry name (change old) s.vars }
    mark change rest

def exportNames (words : List String) : Run Nat := do
  let (flags, names) ← options ['p'] words
  if names.isEmpty || !flags.isEmpty then
    printed (listed "export " ((← get).vars.filter fun e => e.2.isExported))
  else
    mark (fun v => { v with isExported := true }) names
    pure 0

def readonlyNames (words : List String) : Run Nat := do
  let (flags, names) ← options ['p'] words
  if names.isEmpty || !flags.isEmpty then
    printed (listed "readonly " ((← get).vars.filter fun e => e.2.isReadOnly))
  else
    mark (fun v => { v with isReadOnly := true }) names
    pure 0

def unset (words : List String) : Run Nat := do
  let (flags, names) ← options ['v', 'f'] words
  if flags.getLast? = some 'f' then
    modify fun s => { s with functions := s.functions.filter fun e => !names.contains e.1 }
  else
    names.forM fun name => do
      requireName name
      unsetVariable name
  pure 0

def makeLocal (words : List String) : Run Nat := do
  if (← get).locals.isEmpty then refuse "not in a function"
  else
    words.forM fun word => do
      let (name, value) := nameAndValue word
      requireName name
      modify fun s =>
        match s.locals with
        | [] => s
        | frame :: frames =>
          if frame.any (·.1 = name) then s
          else { s with locals := ((name, valueAt? name s.vars) :: frame) :: frames }
      match value with
      | some text => setVariable name text false
      | none => pure ()
    pure 0

def switch (isOn : Bool) (c : Char) : Run Unit :=
  modify fun s =>
    let others := s.options.filter (· ≠ c)
    let on := if isOn then c :: others else others
    { s with options := (optionNames.map (·.1)).reverse.filter on.contains }

def listOptions (isOn : Bool) : Run Unit := do
  let s ← get
  let entries := optionNames.map (fun e => (e.2, s.hasOption e.1)) ++
    [("nolog", false), ("debug", false)]
  if isOn then
    let lines := entries.map fun e =>
      e.1 ++ String.ofList (List.replicate (16 - e.1.length) ' ') ++
        (if e.2 then "on" else "off") ++ "\n"
    print ("Current option settings\n" ++ String.join lines)
  else
    print (String.join (entries.map fun e => "set " ++ (if e.2 then "-o " else "+o ") ++ e.1 ++ "\n"))

def switchAll (isOn : Bool) (letters : List Char) (rest : List String) : Run (List String) := do
  match letters with
  | [] => pure rest
  | 'o' :: more =>
    match rest with
    | [] =>
      listOptions isOn
      switchAll isOn more []
    | name :: rest =>
      match optionNames.find? (·.2 = name) with
      | some e =>
        switch isOn e.1
        switchAll isOn more rest
      | none => refuse ("Illegal option -o " ++ name)
  | c :: more =>
    if optionNames.any (·.1 = c) then
      switch isOn c
      switchAll isOn more rest
    else refuse ("Illegal option -" ++ String.singleton c)

/-- The options at the front of words; the answer is what follows them, and whether it counts as
arguments even when it is nothing. -/
def switchOptions : Nat → List String → Run (List String × Bool)
  | 0, words => pure (words, false)
  | _, [] => pure ([], false)
  | fuel + 1, word :: rest => do
    match word.toList with
    | ['-', '-'] => pure (rest, true)
    | ['-'] =>
      switch false 'x'
      switch false 'v'
      pure (rest, false)
    | '-' :: letters => switchOptions fuel (← switchAll true letters rest)
    | '+' :: letters => switchOptions fuel (← switchAll false letters rest)
    | _ => pure (word :: rest, false)

def setArguments (words : List String) : Run Nat := do
  if words.isEmpty then
    printed (listed "" ((← get).vars.filter fun e => e.2.value.isSome))
  else
    let (rest, counts) ← switchOptions words.length words
    if counts || !rest.isEmpty then modify fun s => { s with arguments := rest }
    pure 0

def setTraps (action : Option String) : List String → Run Nat
  | [] => pure 0
  | word :: rest => do
    match signalOf? word with
    | none =>
      printError ("trap: " ++ word ++ ": bad trap\n")
      pure 1
    | some n =>
      let name := signalName n
      modify fun s =>
        let others := s.traps.filter (·.1 ≠ name)
        { s with traps :=
            match action with
            | some text => if text = "-" then others else (name, text) :: others
            | none => others }
      setTraps action rest

def trap (words : List String) : Run Nat := do
  let (_, words) ← options [] words
  match words with
  | [] =>
    let traps := (← get).traps
    let names := (0, "EXIT") :: signals
    printed (String.join (names.map fun e =>
      match valueAt? e.2 traps with
      | some text => "trap -- " ++ quotedValue text ++ " " ++ e.2 ++ "\n"
      | none => ""))
  | [word] => setTraps none [word]
  | action :: rest => setTraps (some action) rest

def killUsage : String :=
  "Usage: kill [-s sigspec | -signum | -sigspec] [pid | job]... or\nkill -l [exitstatus]"

def send (signal status : Nat) : List String → Run Nat
  | [] => pure status
  | word :: rest => do
    let s ← get
    match word.toNat? with
    | none => refuse ("Illegal number: " ++ word)
    | some n =>
      if n = State.ownNumber then
        if signal ≠ 0 then set { s with pendingSignal := some signal }
        send signal status rest
      else if s.jobs.any (·.1 = n) then send signal status rest
      else
        complain "No such process\n"
        send signal 1 rest

def kill (words : List String) : Run Nat := do
  match words with
  | [] => refuse killUsage
  | "-l" :: rest =>
    match rest with
    | [] => printed (String.join (signals.map fun e => e.2 ++ "\n"))
    | word :: _ =>
      let n ← countOf word
      printed (signalName (if 128 < n then n - 128 else n) ++ "\n")
  | "--" :: rest => if rest.isEmpty then refuse killUsage else send 15 0 rest
  | "-s" :: name :: rest =>
    match signalOf? name with
    | some n => if rest.isEmpty then refuse killUsage else send n 0 rest
    | none => refuse ("invalid signal number or name: " ++ name)
  | word :: rest =>
    match word.toList with
    | '-' :: letters =>
      match signalOf? (String.ofList letters) with
      | some n => if rest.isEmpty then refuse killUsage else send n 0 rest
      | none => refuse ("Illegal option -" ++ String.ofList (letters.take 1))
    | _ => send 15 0 words

/-- The characters of lines with the mark of those that a backslash stood before, and whether the last
line was ended. -/
def readMarked (isRaw : Bool) : Nat → Run (List Marked × Bool)
  | 0 => pure ([], false)
  | fuel + 1 => do
    match ← readLine 0 with
    | none => pure ([], false)
    | some (line, isEnded) =>
      let line := line.filter (· ≠ '\x00')
      if isRaw then pure (line.map fun c => (c, false), isEnded)
      else
        let (marked, isJoined) := escaped line
        if isJoined && isEnded then
          let (more, isEnded) ← readMarked isRaw fuel
          pure (marked ++ more, isEnded)
        else pure (marked, isEnded)
where
  escaped : List Char → List Marked × Bool
    | [] => ([], false)
    | ['\\'] => ([], true)
    | '\\' :: c :: rest =>
      let (more, isJoined) := escaped rest
      ((c, true) :: more, isJoined)
    | c :: rest =>
      let (more, isJoined) := escaped rest
      ((c, false) :: more, isJoined)

def lineFields (separators : List Char) : Nat → List Marked → List String
  | 0, _ => []
  | n + 1, cs =>
    let isBlank (m : Marked) : Bool :=
      !m.2 && separators.contains m.1 && (m.1 = ' ' || m.1 = '\t' || m.1 = '\n')
    let isSeparator (m : Marked) : Bool := !m.2 && separators.contains m.1
    let text (ms : List Marked) : String := String.ofList (ms.map (·.1))
    let cs := cs.dropWhile isBlank
    let field := cs.takeWhile fun m => !isSeparator m
    let rest := (cs.drop field.length).dropWhile isBlank
    let rest :=
      match rest with
      | m :: more => if isSeparator m then more.dropWhile isBlank else rest
      | [] => []
    if n = 0 then
      if rest.isEmpty then [text field] else [text (cs.reverse.dropWhile isBlank).reverse]
    else text field :: lineFields separators n rest

def read (words : List String) : Run Nat := do
  let size := wordsLength words
  let (flags, names) ← optionsOf [('r', false), ('p', true)] [] size words
  match flags.find? (·.1 = 'p') with
  | some e => printError e.2
  | none => pure ()
  if names.isEmpty then refuse "arg count"
  else
    names.forM requireName
    let (marked, isEnded) ← readMarked (flags.any (·.1 = 'r')) 100000
    let s ← get
    let fields := lineFields s.separators names.length marked
    (names.zip fields).forM fun (name, text) => setVariable name text false
    pure (if isEnded then 0 else 1)

def nextOption (optionText name : String) (words : List String) : Run Nat := do
  let s ← get
  let index := max 1 (((s.valueOf? "OPTIND").bind String.toNat?).getD 1)
  let letters := optionText.toList
  let isQuiet := letters.head? = some ':'
  let known := if isQuiet then letters.tail else letters
  let finish (index place : Nat) (letter : String) (argument : Option String) (status : Nat) :
      Run Nat := do
    match argument with
    | some text => setVariable "OPTARG" text false
    | none => unsetVariable "OPTARG"
    setVariable "OPTIND" (toString index) false
    modify fun s => { s with optionPlace := place }
    setVariable name letter false
    pure status
  let started := if s.optionPlace = 0 then none else words[index - 2]?
  let left : List Char := match started with | some w => w.toList.drop s.optionPlace | none => []
  let begin? : Option (Nat × Nat × List Char) :=
    if !left.isEmpty then some (index, s.optionPlace, left)
    else
      match (words[index - 1]?).map String.toList with
      | some ('-' :: c :: rest) =>
        if c = '-' && rest.isEmpty then none else some (index + 1, 1, c :: rest)
      | _ => none
  match begin? with
  | none =>
    let index := if words[index - 1]? = some "--" then index + 1 else index
    finish index 0 "?" none 1
  | some (index, place, c :: rest) =>
    let position := known.findIdx? (· = c)
    match position with
    | none =>
      let place := if rest.isEmpty then 0 else place + 1
      if isQuiet then finish index place "?" (some (String.singleton c)) 0
      else
        printError ("Illegal option -" ++ String.singleton c ++ "\n")
        finish index place "?" none 0
    | some i =>
      if known[i + 1]? = some ':' then
        if !rest.isEmpty then finish index 0 (String.singleton c) (some (String.ofList rest)) 0
        else
          match words[index - 1]? with
          | some word => finish (index + 1) 0 (String.singleton c) (some word) 0
          | none =>
            if isQuiet then finish index 0 ":" (some (String.singleton c)) 0
            else
              printError ("No arg for -" ++ String.singleton c ++ " option\n")
              finish index 0 "?" none 0
      else
        let place := if rest.isEmpty then 0 else place + 1
        finish index place (String.singleton c) (some "") 0
  | some (index, _, []) => finish index 0 "?" none 1

def getOptions (words : List String) : Run Nat := do
  match words with
  | optionText :: name :: rest =>
    let s ← get
    requireName name
    nextOption optionText name (if rest.isEmpty then s.arguments else rest)
  | _ => refuse "Usage: getopts optstring var [arg...]"

def wait (words : List String) : Run Nat := do
  match words.getLast? with
  | none => pure 0
  | some word => return (valueAt? (word.toNat?.getD 0) (← get).jobs).getD 127

def umask (words : List String) : Run Nat := do
  let (flags, rest) ← options ['S'] words
  match rest with
  | [] => printed (if flags.isEmpty then "0022\n" else "u=rwx,g=rx,o=rx\n")
  | _ => pure 0

def test (words : List String) : Run Nat := do
  match Condition.holds (← get) words with
  | .ok holds => pure (if holds then 0 else 1)
  | .error fault => refuse fault.message

def testBracketed (words : List String) : Run Nat := do
  match Condition.unbracketed words with
  | .ok words => test words
  | .error fault => refuse fault.message

def builtin? (name : String) : Option (List String → Run Nat) :=
  match name with
  | ":" | "true" => some fun _ => pure 0
  | "false" => some fun _ => pure 1
  | "echo" => some echo
  | "printf" => some printf
  | "pwd" => some printDirectory
  | "cd" | "chdir" => some changeDirectory
  | "exit" => some leave
  | "return" => some goBack
  | "break" => some (leaveLoops .broke)
  | "continue" => some (leaveLoops .continued)
  | "shift" => some shift
  | "export" => some exportNames
  | "readonly" => some readonlyNames
  | "unset" => some unset
  | "local" => some makeLocal
  | "set" => some setArguments
  | "trap" => some trap
  | "kill" => some kill
  | "read" => some read
  | "getopts" => some getOptions
  | "wait" => some wait
  | "umask" => some umask
  | "test" => some test
  | "[" => some testBracketed
  | "times" => some fun _ => printed "0m0.000000s 0m0.000000s\n0m0.000000s 0m0.000000s\n"
  | "ulimit" => some fun _ => printed "unlimited\n"
  | "jobs" | "hash" | "alias" | "unalias" => some fun _ => pure 0
  | "fg" | "bg" => some fun _ => refuse "No current job"
  | _ => none

def runners : List String :=
  [".", "command", "eval", "exec", "type"]

def isBuiltin (name : String) : Bool :=
  (builtin? name).isSome || runners.contains name

end Run

end WorkspaceImport.Shell
