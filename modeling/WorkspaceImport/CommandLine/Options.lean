/-!
Options and arguments. An option has a long name, and one that takes a value may have a letter; the
value stands in the same word or in the next one, whatever that begins with. Two dashes alone end the
options.
-/
namespace WorkspaceImport.CommandLine

inductive OptionForm where
  | flag
  | valued (letter : Option Char)
  deriving DecidableEq

structure OptionSpec where
  name : String
  form : OptionForm
  deriving DecidableEq

inductive UsageFault where
  | unknownOption (word : String)
  | missingValue (option : String)
  | unwantedValue (option : String)
  | missingCommand
  | unknownCommand (name : String)
  | missingArgument
  | extraArguments (words : List String)
  deriving DecidableEq

structure ParsedWords where
  options : List (String × String)
  arguments : List String
  deriving DecidableEq

namespace ParsedWords

def values (w : ParsedWords) (name : String) : List String :=
  (w.options.filter (·.1 = name)).map (·.2)

def value? (w : ParsedWords) (name : String) : Option String :=
  (w.values name).getLast?

def addOption (name value : String) (w : ParsedWords) : ParsedWords :=
  { w with options := (name, value) :: w.options }

def addArgument (word : String) (w : ParsedWords) : ParsedWords :=
  { w with arguments := word :: w.arguments }

end ParsedWords

inductive OptionWord where
  | complete (name value : String)
  | wanting (name : String)

def isOptionWord (word : String) : Bool :=
  word.toList.head? = some '-' && 1 < word.length

def OptionSpec.hasLetter (s : OptionSpec) (letter : Char) : Bool :=
  s.form = .valued (some letter)

def letterOption (specs : List OptionSpec) (word : String) : Except UsageFault OptionWord :=
  match word.toList with
  | _ :: letter :: rest =>
    match specs.find? (·.hasLetter letter) with
    | some spec =>
      .ok (if rest.isEmpty then .wanting spec.name else .complete spec.name (String.ofList rest))
    | none => .error (.unknownOption word)
  | _ => .error (.unknownOption word)

def optionIn (specs : List OptionSpec) (word : String) : Except UsageFault OptionWord :=
  let cs := word.toList
  let name := String.ofList (cs.takeWhile (· ≠ '='))
  let value : Option String :=
    match cs.dropWhile (· ≠ '=') with
    | _ :: rest => some (String.ofList rest)
    | [] => none
  match specs.find? (·.name = name), value with
  | some ⟨_, .flag⟩, none => .ok (.complete name "")
  | some ⟨_, .flag⟩, some _ => .error (.unwantedValue name)
  | some _, some v => .ok (.complete name v)
  | some _, none => .ok (.wanting name)
  | none, _ =>
    if ['-', '-'].isPrefixOf cs then .error (.unknownOption word) else letterOption specs word

/-- The options and the arguments in words. When options may not stand behind arguments, the first
argument ends the options. -/
def parseWords (specs : List OptionSpec) (mixed : Bool) : List String → Except UsageFault ParsedWords
  | [] => .ok ⟨[], []⟩
  | word :: rest =>
    if word = "--" then .ok ⟨[], rest⟩
    else if isOptionWord word then
      match optionIn specs word, rest with
      | .error fault, _ => .error fault
      | .ok (.complete name value), rest =>
        (parseWords specs mixed rest).map (ParsedWords.addOption name value)
      | .ok (.wanting name), value :: rest =>
        (parseWords specs mixed rest).map (ParsedWords.addOption name value)
      | .ok (.wanting name), [] => .error (.missingValue name)
    else if mixed then (parseWords specs mixed rest).map (ParsedWords.addArgument word)
    else .ok ⟨[], word :: rest⟩

end WorkspaceImport.CommandLine
