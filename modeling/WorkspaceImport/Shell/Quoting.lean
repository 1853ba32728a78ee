import WorkspaceImport.Shell.Escape
/-!
How programs quote what they were given when they complain about it: between marks, where the marks
depend on whether text is that of Unicode, or in the way in which a shell would read it back.
-/
namespace WorkspaceImport.Shell

def controlLetter? (c : Char) : Option Char :=
  (Escape.letters.find? fun e => e.2 = c && e.1 ≠ 'e' && e.1 ≠ '\\').map (·.1)

def octalShown (c : Char) : List Char :=
  let digits := Nat.toDigits 8 c.toNat
  '\\' :: (List.replicate (3 - digits.length) '0' ++ digits)

def isShown (isText : Bool) (c : Char) : Bool :=
  (32 ≤ c.toNat && c.toNat < 127) || (isText && 128 ≤ c.toNat)

def quoteMarked (isUnicode : Bool) (s : String) : String :=
  let isText := isUnicode && (gather? s).isSome
  let body := s.toList.flatMap fun c =>
    if c = '\x27' && !isUnicode then ['\\', c]
    else if c = '\\' then ['\\', '\\']
    else if isShown isText c then [c]
    else
      match controlLetter? c with
      | some letter => ['\\', letter]
      | none => octalShown c
  if isUnicode then spread "‘" ++ String.ofList body ++ spread "’"
  else "'" ++ String.ofList body ++ "'"

def needsQuotes (s : String) : Bool :=
  s.isEmpty || s.toList.head?.any (fun c => c = '#' || c = '~') ||
    s.toList.any fun c =>
      !isShown true c ||
        [' ', '\x22', '\x27', '$', '&', '(', ')', '*', ';', '<', '=', '>', '?', '[', '\\', '^', '\x60',
          '|', '!'].contains c

def quotedRuns (isText isOpen : Bool) : List Char → List Char
  | [] => if isOpen then ['\x27'] else []
  | c :: rest =>
    if isShown isText c && c ≠ '\x27' then
      (if isOpen then [c] else ['\x27', c]) ++ quotedRuns isText true rest
    else
      let close : List Char := if isOpen then ['\x27'] else []
      let shown : List Char :=
        if c = '\x27' then ['\\', '\x27']
        else
          let body := match controlLetter? c with
            | some letter => ['\\', letter]
            | none => octalShown c
          ['$', '\x27'] ++ body ++ ['\x27']
      close ++ shown ++ quotedRuns isText false rest

def quoteForShell (isUnicode always : Bool) (s : String) : String :=
  let isText := isUnicode && (gather? s).isSome
  if !always && !needsQuotes s then s
  else if s.toList.contains '\x27' &&
      s.toList.all fun c => isShown isText c && !(['\x22', '$', '\x60', '\\', '!'].contains c) then
    "\x22" ++ s ++ "\x22"
  else
    let start : List Char :=
      if s.toList.head?.any fun c => !isShown isText c then ['\x27', '\x27'] else []
    if s.isEmpty then "''" else String.ofList (start ++ quotedRuns isText false s.toList)

end WorkspaceImport.Shell
