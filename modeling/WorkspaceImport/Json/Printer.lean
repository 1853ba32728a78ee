import WorkspaceImport.Data.Value
/-!
Writing JSON on one line, with a blank after every comma and colon. Characters outside ASCII are
written as themselves.
-/
namespace WorkspaceImport.Json

def escapeChar (c : Char) : List Char :=
  if c = '\x22' ∨ c = '\\' then ['\\', c]
  else if c = '\n' then ['\\', 'n']
  else if c = '\r' then ['\\', 'r']
  else if c = '\t' then ['\\', 't']
  else if c = '\x08' then ['\\', 'b']
  else if c = '\x0c' then ['\\', 'f']
  else if c.toNat < 32 then '\\' :: 'u' :: Text.hexDigits 4 c.toNat
  else [c]

def writeText (s : String) : String :=
  String.ofList ('\x22' :: s.toList.flatMap escapeChar ++ ['\x22'])

def keyName : Value → String
  | .text s => s
  | .null => "null"
  | .bool b => if b then "true" else "false"
  | .int n => toString n
  | .float x => x.write .json
  | v => v.shown

mutual

def write : Value → String
  | .null => "null"
  | .bool b => if b then "true" else "false"
  | .int n => toString n
  | .float x => x.write .json
  | .text s => writeText s
  | .list items | .set items => "[" ++ String.intercalate ", " (writeItems items) ++ "]"
  | .pair a b => "[" ++ write a ++ ", " ++ write b ++ "]"
  | .map entries => "\x7b" ++ String.intercalate ", " (writeEntries entries) ++ "\x7d"
  | .bytes content => writeText (Text.quotedBytes content)
  | .moment m => writeText m.text
  | .again isMap => writeText (Value.again isMap).shown

def writeItems : List Value → List String
  | [] => []
  | v :: rest => write v :: writeItems rest

def writeEntries : List (Value × Value) → List String
  | [] => []
  | (k, v) :: rest => (writeText (keyName k) ++ ": " ++ write v) :: writeEntries rest

end

end WorkspaceImport.Json
