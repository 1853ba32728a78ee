import WorkspaceImport.Shell.Parser
import WorkspaceImport.Shell.Program
/-!
Running scripts. Every command has a status; loops, functions and the shell itself are left early by
being stopped. A part of a script that runs in a shell of its own works on a copy of everything but the
files and the channels. The commands of a pipe run one after the other.
-/
namespace WorkspaceImport.Shell

namespace Run

def statusAt (s : State) : Stop → Nat
  | .exited n | .failed n => n
  | .killed n => 128 + n
  | .returned | .broke _ | .continued _ => s.status

def afterProcess (outer inner : State) : State :=
  { outer with
    files := { inner.files with here := outer.files.here }
    channels := inner.channels
    pendingSignal := inner.pendingSignal
    documents := inner.documents
    nextDocument := inner.nextDocument }

def inProcess (name : String) (environment : List (String × String)) (action : Run Nat) :
    Run Ended := do
  let outer ← get
  let given (e : String × String) : String × Variable := (e.1, Variable.mk (some e.2) true false)
  set { outer with
    vars := environment.map given
    functions := []
    locals := []
    name := name
    command := ""
    arguments := []
    options := []
    status := 0
    traps := []
    documents := []
    line := 0
    loops := 0
    isSubshell := false
    pendingSignal := none
    jobs := []
    optionPlace := 0 }
  let ended : Ended ←
    try
      let status ← action
      pure (.exited status)
    catch stop =>
      match stop with
      | .killed signal => pure (.killed signal)
      | stop =>
        let inner ← get
        pure (.exited (statusAt inner stop))
  let inner ← get
  set { afterProcess outer inner with pendingSignal := outer.pendingSignal }
  pure ended

def inSubshell (action : Run Nat) : Run Nat := do
  let outer ← get
  set { outer with
    isSubshell := true
    traps := outer.traps.filter (·.2.isEmpty)
    jobs := [] }
  let status ←
    try action
    catch stop => pure (statusAt (← get) stop)
  let inner ← get
  set (afterProcess outer inner)
  pure status

def inLoop (action : Run Nat) : Run (Nat × Bool) := do
  try return (← action, true)
  catch stop =>
    match stop with
    | .broke n => if n ≤ 1 then return (0, false) else throw (.broke (n - 1))
    | .continued n => if n ≤ 1 then return (0, true) else throw (.continued (n - 1))
    | stop => throw stop

def countingLoops (change : Nat → Nat) (action : Run Nat) : Run Nat := do
  let old := (← get).loops
  modify fun s => { s with loops := change old }
  try
    let status ← action
    modify fun s => { s with loops := old }
    pure status
  catch stop =>
    modify fun s => { s with loops := old }
    throw stop

/-- Running a command of the shell under its name. What fails in it ends the script only if it is one of
the special ones. -/
def asCommand (name : String) (isSpecial : Bool) (action : Run Nat) : Run Nat := do
  let old := (← get).command
  modify fun s => { s with command := name }
  try
    let status ← action
    modify fun s => { s with command := old }
    pure status
  catch stop =>
    modify fun s => { s with command := old }
    match stop, isSpecial with
    | .failed n, false => pure n
    | stop, _ => throw stop

def restoring (old : List (String × Option Variable)) (action : Run Nat) : Run Nat := do
  let back : Run Unit := old.forM fun e => restoreVariable e.1 e.2
  try
    let status ← action
    back
    pure status
  catch stop =>
    back
    throw stop

def trace (channel : Option Nat) (texts : List String) : Run Unit := do
  let s ← get
  if s.hasOption 'x' then
    let line := (s.valueOf? "PS4").getD "" ++ String.intercalate " " texts ++ "\n"
    match channel with
    | some channel => discard (writeTo channel (toBytes line))
    | none => pure ()

def launchStatus (name : String) (cause : OsCause) : Run Nat := do
  match cause with
  | .notFound | .notDirectory =>
    complain (name ++ ": not found")
    pure 127
  | .nameTooLong =>
    complain (name ++ ": File name too long")
    pure 127
  | cause =>
    complain (name ++ ": " ++ systemMessage cause)
    pure 126

def describe (name : String) : Run (Option String) := do
  let s ← get
  if reservedWords.contains name then pure (some "is a shell keyword")
  else if specialNames.contains name then pure (some "is a special shell builtin")
  else if (valueAt? name s.functions).isSome then pure (some "is a shell function")
  else if isBuiltin name then pure (some "is a shell builtin")
  else
    match programPath? s name with
    | some path => pure (some ("is " ++ path))
    | none => pure none
where
  programPath? (s : State) (name : String) : Option String :=
    if name.toList.contains '/' then
      match Program.nameAt s.files (pathOf name), s.find name with
      | .ok _, _ => some name
      | _, .ok _ => some name
      | _, _ => none
    else
      let search := (s.valueOf? "PATH").getD ""
      ((search.toList.splitOn ':').map fun d => String.ofList d ++ "/" ++ name).find? fun path =>
        (Program.nameAt s.files (pathOf path)).isOk

def describeAll : List String → Run Nat
  | [] => pure 0
  | name :: rest => do
    match ← describe name with
    | some text =>
      print (name ++ " " ++ text ++ "\n")
      describeAll rest
    | none =>
      print (name ++ ": not found\n")
      let _ ← describeAll rest
      pure 127

def describeShort (name : String) : Run Nat := do
  match ← describe name with
  | some text =>
    let short := if text.startsWith "is /" then String.ofList (text.toList.drop 3) else name
    print (short ++ "\n")
    pure 0
  | none => pure 127

def sourceOf (text : String) : Run Source := do
  return ⟨text.toList, 1, none, [], [], (← get).nextDocument⟩

def nextCommand (source : Source) : Run (Command × Source × Bool) := do
  match (Parse.list true true (40 * source.rest.length + 400)).run source with
  | .error fault =>
    modify fun s => { s with line := fault.line }
    refuse ("Syntax error: " ++ fault.message)
  | .ok (c, source) =>
    modify fun s => { s with
      documents := source.documents ++ s.documents
      nextDocument := source.nextDocument }
    let isLast := match source.pushed with | some .ended => true | _ => false
    pure (c, { source with documents := [], pushed := none }, isLast)

def wordOfMark (substitute : Command → Run String) (w : Word) : Run (List String) := do
  match assignment? w with
  | some (name, value) => return [name ++ "=" ++ (← textOf substitute true value)]
  | none => fieldsOf substitute w

def wordsOf (substitute : Command → Run String) (done : List String) : List Word → Run (List String)
  | [] => pure done
  | w :: rest => do
    let marks := match done.head? with
      | some name => name = "export" || name = "readonly" || name = "local"
      | none => false
    let fields ← if marks then wordOfMark substitute w else fieldsOf substitute w
    wordsOf substitute (done ++ fields) rest

def initialVariables (files : FileTree) (given : List (String × Variable)) :
    List (String × Variable) :=
  let known := given.filter fun e => isName e.1.toList
  let standard (entries : List (String × Variable)) (name value : String) :
      List (String × Variable) :=
    if (valueAt? name entries).isSome then entries
    else entries ++ [(name, Variable.mk (some value) false false)]
  let known := standard known "PATH" "/usr/local/sbin:/usr/local/bin:/usr/sbin:/usr/bin:/sbin:/bin"
  let known := standard known "PS1" "# "
  let known := standard known "PS2" "> "
  let known := standard known "PS4" "+ "
  let isExported (name : String) : Bool := (valueAt? name known).any (·.isExported)
  let known := putEntry "IFS" (Variable.mk (some " \t\n") (isExported "IFS") false) known
  let known := putEntry "OPTIND" (Variable.mk (some "1") (isExported "OPTIND") false) known
  let known := putEntry "PPID" (Variable.mk (some "4020") (isExported "PPID") false) known
  putEntry "PWD" (Variable.mk (some (directoryText files)) true false) known

/-- How a shell is started: its options, what it reads, and whether options come from single words. -/
structure ShellUse where
  isText : Bool
  readsInput : Bool
  words : List String

def shellUse : Nat → ShellUse → List String → Run ShellUse
  | 0, u, words => pure { u with words := words }
  | _, u, [] => pure { u with words := [] }
  | fuel + 1, u, word :: rest => do
    match word.toList with
    | ['-', '-'] | ['-'] => pure { u with words := rest }
    | '-' :: letters =>
      let own := letters.filter fun c => c ≠ 'c' && c ≠ 'l'
      let rest ← switchAll true own rest
      shellUse fuel
        ⟨u.isText || letters.contains 'c', u.readsInput || letters.contains 's', []⟩ rest
    | '+' :: letters =>
      let rest ← switchAll false letters rest
      shellUse fuel u rest
    | _ => pure { u with words := word :: rest }

def commandUse (words : List String) : Run (Option (List Char × List String)) := do
  let old := (← get).command
  modify fun s => { s with command := "command" }
  let found ←
    try
      let u ← options ['p', 'v', 'V'] words
      pure (some u)
    catch stop =>
      match stop with
      | .failed _ => pure none
      | stop => throw stop
  modify fun s => { s with command := old }
  pure found

def assign (substitute : Command → Run String) (settings : List (String × Word))
    (exports : Bool) : Run (List String) :=
  settings.mapM fun (name, word) => do
    let value ← textOf substitute true word
    setVariable name value exports
    return name ++ "=" ++ value

mutual

def eval (tested : Bool) (c : Command) : Nat → Run Nat
  | 0 => throw (.exited 2)
  | fuel + 1 => do
    if (← get).hasOption 'n' then return (← status)
    let status ←
      match c with
      | .nothing => status
      | .simple line assignments words redirections =>
        evalSimple line assignments words redirections fuel
      | .pipe commands => evalPipe none commands fuel
      | .negation body => do
        let n ← eval true body fuel
        pure (if n = 0 then 1 else 0)
      | .sequence first second => do
        let _ ← eval tested first fuel
        eval tested second fuel
      | .both first second => do
        let n ← eval true first fuel
        if n = 0 then eval tested second fuel else pure n
      | .either first second => do
        let n ← eval true first fuel
        if n = 0 then pure n else eval tested second fuel
      | .background body => do
        let input ← addChannel .nowhere
        let n ← keepingStreams do
          setStream 0 input
          inSubshell (withTraps (eval tested body fuel) fuel)
        modify fun s =>
          { s with jobs := (State.ownNumber + 1 + s.jobs.length, n) :: s.jobs }
        pure 0
      | .subshell line body => do
        modify fun s => { s with line := line }
        inSubshell (withTraps (eval tested body fuel) fuel)
      | .redirected line body redirections => do
        modify fun s => { s with line := line }
        let targets ← redirections.mapM (targetOf fun c => capture c fuel)
        keepingStreams do
          if ← openTargets targets then eval tested body fuel else pure 2
      | .conditional test yes no => do
        let n ← eval true test fuel
        if n = 0 then eval tested yes fuel
        else if no.isNothing then pure 0
        else eval tested no fuel
      | .loop isUntil test body =>
        countingLoops (· + 1) (evalLoop tested isUntil test body 0 fuel)
      | .forEach line name words body => do
        modify fun s => { s with line := line }
        let values ← words.mapM (fieldsOf fun c => capture c fuel)
        countingLoops (· + 1) (evalFor tested name body 0 values.flatten fuel)
      | .cases line word branches => do
        modify fun s => { s with line := line }
        let text ← textOf (fun c => capture c fuel) false word
        evalCases tested text branches fuel
      | .function name body => do
        modify fun s => { s with functions := putEntry name body s.functions }
        pure 0
    setStatus status
    meetSignal fuel
    let checks :=
      match c with
      | .simple .. | .pipe _ | .subshell .. | .background _ => true
      | _ => false
    if checks && !tested && status ≠ 0 && (← get).hasOption 'e' then throw (.exited status)
    else pure status
termination_by structural n => n

def meetSignal : Nat → Run Unit
  | 0 => pure ()
  | fuel + 1 => do
    let s ← get
    match s.pendingSignal with
    | none => pure ()
    | some signal =>
      if s.isSubshell then pure ()
      else
        set { s with pendingSignal := none }
        match valueAt? (signalName signal) s.traps with
        | some action =>
          if signal = 9 || signal = 19 then throw (.killed signal)
          else if !action.isEmpty then
            let _ ← evalScript action fuel
            setStatus s.status
        | none => if !isHarmless signal then throw (.killed signal)
termination_by structural n => n

def withTraps (action : Run Nat) : Nat → Run Nat
  | 0 => action
  | fuel + 1 => do
    let status ←
      try action
      catch stop =>
        match stop with
        | .killed signal => throw (.killed signal)
        | stop => pure (statusAt (← get) stop)
    let s ← get
    match valueAt? "EXIT" s.traps with
    | none => pure status
    | some text =>
      set { s with traps := s.traps.filter (·.1 ≠ "EXIT"), status := status }
      let _ ← evalScript text fuel
      pure status
termination_by structural n => n

def capture (c : Command) : Nat → Run String
  | 0 => pure ""
  | fuel + 1 => do
    let channel ← addChannel (.pipe .empty 0)
    let status ←
      if c.isNothing then pure 0
      else
        keepingStreams do
          setStream 1 channel
          inSubshell (withTraps (eval false c fuel) fuel)
    modify fun s => { s with substituted := status }
    match (← get).channels[channel]? with
    | some (.pipe bytes _) => pure (ofBytes bytes.toList)
    | _ => pure ""
termination_by structural n => n

def evalPipe (input : Option Nat) : List Command → Nat → Run Nat
  | _, 0 => pure 0
  | [], _ => pure 0
  | [last], fuel + 1 => stage input none last fuel
  | c :: rest, fuel + 1 => do
    let channel ← addChannel (.pipe .empty 0)
    let _ ← stage input (some channel) c fuel
    evalPipe (some channel) rest fuel
termination_by structural _ n => n

def stage (input output : Option Nat) (c : Command) : Nat → Run Nat
  | 0 => pure 0
  | fuel + 1 =>
    keepingStreams do
      match input with
      | some channel => setStream 0 channel
      | none => pure ()
      match output with
      | some channel => setStream 1 channel
      | none => pure ()
      inSubshell (withTraps (eval false c fuel) fuel)
termination_by structural n => n

def evalLoop (tested isUntil : Bool) (test body : Command) (last : Nat) : Nat → Run Nat
  | 0 => throw (.exited 2)
  | fuel + 1 => do
    let (n, goesOn) ← inLoop do
      let n ← eval true test fuel
      pure (if (n = 0) = isUntil then 1 else 2)
    if !goesOn then pure last
    else if n = 1 then pure last
    else if n = 0 then evalLoop tested isUntil test body last fuel
    else
      let (status, goesOn) ← inLoop (eval tested body fuel)
      if goesOn then evalLoop tested isUntil test body status fuel else pure status
termination_by structural n => n

def evalFor (tested : Bool) (name : String) (body : Command) (last : Nat) :
    List String → Nat → Run Nat
  | _, 0 => throw (.exited 2)
  | [], _ => pure last
  | value :: rest, fuel + 1 => do
    setVariable name value false
    let (status, goesOn) ← inLoop (eval tested body fuel)
    if goesOn then evalFor tested name body status rest fuel else pure status
termination_by structural _ n => n

def evalCases (tested : Bool) (text : String) : List Branch → Nat → Run Nat
  | _, 0 => pure 0
  | [], _ => pure 0
  | (patterns, body) :: rest, fuel + 1 => do
    if ← anyAccepts text patterns fuel then
      if body.isNothing then pure 0 else eval tested body fuel
    else evalCases tested text rest fuel
termination_by structural _ n => n

def anyAccepts (text : String) : List Word → Nat → Run Bool
  | _, 0 => pure false
  | [], _ => pure false
  | w :: rest, fuel + 1 => do
    let pattern ← patternOf (fun c => capture c fuel) w
    if Pattern.accepts pattern text.toList then pure true else anyAccepts text rest fuel
termination_by structural _ n => n

def evalScript (text : String) : Nat → Run Nat
  | 0 => throw (.exited 2)
  | fuel + 1 => do
    let source ← sourceOf text
    evalFrom source 0 fuel
termination_by structural n => n

def evalFrom (source : Source) (last : Nat) : Nat → Run Nat
  | 0 => throw (.exited 2)
  | fuel + 1 => do
    let (c, source, isLast) ← nextCommand source
    let last ← if c.isNothing then pure last else eval false c fuel
    if isLast then pure last else evalFrom source last fuel
termination_by structural n => n

def evalSimple (line : Nat) (assignments : List (String × Word)) (words : List Word)
    (redirections : List Redirection) : Nat → Run Nat
  | 0 => throw (.exited 2)
  | fuel + 1 => do
    modify fun s => { s with line := line, substituted := 0 }
    let substitute : Command → Run String := fun c => capture c fuel
    let texts ← wordsOf substitute [] words
    let targets ← redirections.mapM (targetOf substitute)
    let errors ← channelOf? 2
    match texts with
    | "exec" :: rest =>
      if !(← openTargets targets) then throw (.failed 2)
      else
        let _ ← assign substitute assignments true
        trace errors texts
        if rest.isEmpty then pure 0
        else
          modify fun s => { s with command := "exec" }
          let s ← get
          match ← launchNamed s.environment rest fuel with
          | .exited status => throw (.exited status)
          | .killed signal => throw (.killed signal)
    | _ =>
      keepingStreams do
        let isSpecial := texts.head?.any specialNames.contains
        if !(← openTargets targets) then if isSpecial then throw (.failed 2) else pure 2
        else
          match texts with
          | [] =>
            let settings ← assign substitute assignments false
            trace errors settings
            return (← get).substituted
          | name :: rest =>
            if isSpecial then
              let settings ← assign substitute assignments false
              trace errors (settings ++ texts)
              runNamed true name rest fuel
            else
              let old := (assignments.map fun a => a.1)
              let s ← get
              restoring (old.reverse.map fun n => (n, valueAt? n s.vars)) do
                let settings ← assign substitute assignments true
                trace errors (settings ++ texts)
                runNamed true name rest fuel
termination_by structural n => n

def runNamed (withFunctions : Bool) (name : String) (words : List String) : Nat → Run Nat
  | 0 => throw (.exited 2)
  | fuel + 1 => do
    let s ← get
    let isSpecial := specialNames.contains name && withFunctions
    match if withFunctions && !specialNames.contains name then valueAt? name s.functions else none with
    | some body => callFunction body words fuel
    | none =>
      match builtin? name with
      | some action => asCommand name isSpecial (action words)
      | none =>
        match name with
        | "eval" =>
          let text := String.intercalate " " words
          asCommand name isSpecial (evalScript text fuel)
        | "." => asCommand name isSpecial (runFile words fuel)
        | "exec" =>
          match words with
          | [] => pure 0
          | _ =>
            modify fun s => { s with command := "exec" }
            match ← launchNamed s.environment words fuel with
            | .exited status => throw (.exited status)
            | .killed signal => throw (.killed signal)
        | "type" => asCommand name isSpecial (describeAll words)
        | "command" => runPlain words fuel
        | _ =>
          match ← launchNamed s.environment (name :: words) fuel with
          | .exited status => pure status
          | .killed signal =>
            match signalMessage? signal with
            | some text => printError (text ++ "\n")
            | none => pure ()
            pure (128 + signal)
termination_by structural n => n

def runPlain (words : List String) : Nat → Run Nat
  | 0 => throw (.exited 2)
  | fuel + 1 => do
    match ← commandUse words with
    | none => pure 2
    | some (flags, rest) =>
      match rest with
      | [] => pure 0
      | name :: more =>
        if flags.contains 'V' then describeAll [name]
        else if flags.contains 'v' then describeShort name
        else runNamed false name more fuel
termination_by structural n => n

def runFile (words : List String) : Nat → Run Nat
  | 0 => throw (.exited 2)
  | fuel + 1 => do
    match words with
    | [] => pure 0
    | path :: _ =>
      let s ← get
      let places :=
        if path.toList.contains '/' then [path]
        else (((s.valueOf? "PATH").getD "").toList.splitOn ':').map fun d =>
          if d.isEmpty then path else String.ofList d ++ "/" ++ path
      let found := places.findSome? fun p =>
        match s.find p with
        | .ok (_, .file content) => some (p, content)
        | _ => none
      match found with
      | none =>
        if path.toList.contains '/' then refuse ("cannot open " ++ path ++ ": No such file")
        else refuse (path ++ ": not found")
      | some (p, content) =>
        modify fun s => { s with command := p }
        try evalScript (ofBytes content.toList) fuel
        catch stop =>
          match stop with
          | .returned => return (← get).status
          | stop => throw stop
termination_by structural n => n

def callFunction (body : Command) (words : List String) : Nat → Run Nat
  | 0 => throw (.exited 2)
  | fuel + 1 => do
    let s ← get
    set { s with arguments := words, locals := [] :: s.locals }
    let back : Run Unit := do
      let inner ← get
      match inner.locals with
      | frame :: _ => frame.forM fun e => restoreVariable e.1 e.2
      | [] => pure ()
      modify fun t => { t with arguments := s.arguments, locals := s.locals }
    try
      let status ← countingLoops (fun _ => 0) (eval false body fuel)
      back
      pure status
    catch stop =>
      back
      match stop with
      | .returned => return (← get).status
      | stop => throw stop
termination_by structural n => n

def launchNamed (environment : List (String × String)) (words : List String) : Nat → Run Ended
  | 0 => throw (.exited 2)
  | fuel + 1 => do
    let s ← get
    let name := words.head?.getD ""
    let search := (s.valueOf? "PATH").getD ""
    if name.isEmpty then
      complain (name ++ ": not found")
      pure (.exited 127)
    else
      match Program.findIn s.files false (Program.candidates search name) with
      | .ok program => launch program environment words fuel
      | .error cause => return .exited (← launchStatus name cause)
termination_by structural n => n

def launch (program : String) (environment : List (String × String)) (words : List String) :
    Nat → Run Ended
  | 0 => throw (.exited 2)
  | fuel + 1 => do
    let name := words.head?.getD ""
    let again : Launch := fun environment words => do
      let s ← get
      let name := words.head?.getD ""
      let search := (valueAt? "PATH" environment).getD Program.standardSearch
      match Program.findIn s.files false (Program.candidates search name) with
      | .ok program => launch program environment words fuel
      | .error cause =>
        Program.note ((← Program.quoted name) ++ ": " ++ systemMessage cause)
        pure (.exited (if cause = .notFound then 127 else 126))
    inProcess name environment do
      match Program.action? program with
      | some action => action words.tail
      | none =>
        match Program.runner? again program with
        | some action => action words.tail
        | none => runShell words.tail fuel
termination_by structural n => n

def runShell (words : List String) : Nat → Run Nat
  | 0 => throw (.exited 2)
  | fuel + 1 => do
    modify fun s => { s with vars := initialVariables s.files s.vars }
    let u ← shellUse (words.length + 1) ⟨false, false, []⟩ words
    if u.isText then
      match u.words with
      | [] => refuse "-c requires an argument"
      | text :: rest => runText rest.head? rest.tail text fuel
    else
      match u.readsInput, u.words with
      | false, path :: rest =>
        match (← get).find path with
        | .ok (_, .file content) => runText (some path) rest (ofBytes content.toList) fuel
        | .ok (_, .directory _) =>
          modify fun s => { s with name := path }
          pure 0
        | .error cause =>
          let reason :=
            if cause = .notFound || cause = .notDirectory then "No such file" else systemMessage cause
          refuse ("cannot open " ++ path ++ ": " ++ reason)
      | _, rest =>
        let text ← readAll 0
        runText none rest (text.toOption.getD "") fuel
termination_by structural n => n

def runText (name : Option String) (arguments : List String) (text : String) : Nat → Run Nat
  | 0 => throw (.exited 2)
  | fuel + 1 => do
    modify fun s => { s with name := name.getD s.name, arguments := arguments, line := 1 }
    withTraps (evalScript text fuel) fuel
termination_by structural n => n

end

end Run

end WorkspaceImport.Shell
