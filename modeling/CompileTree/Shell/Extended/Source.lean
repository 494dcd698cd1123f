import CompileTree.Shell.Extended.Syntax

/-! # Reading scripts of the extended shell

What is left to read of a script, and the steps in which it is read. A backslash at
the end of a line joins the next line to it. Documents stand behind the line that asks
for them, so they are kept by number until they have been read. The line that is being
read is kept too, since complaints show it.
-/

namespace CompileTree.Shell.Extended

/-- A fault in a script, with the line that is shown, if one is. -/
structure Fault where
  line : Nat
  messages : List String
  shown : Option String
  /-- Whether only the line is given up. -/
  onlyLine : Bool
  deriving DecidableEq, Repr

/-- A word, an operator, a line end or a redirection. -/
inductive Token where
  | word (w : Word)
  | assignment (a : Assignment)
  /-- A word that has a meaning of its own where a command may start. -/
  | keyword (text : String)
  | operator (text : String)
  /-- An expression between double parentheses. -/
  | expression (text : Word)
  | lineEnd
  | finish
  /-- The sign of a redirection, with its descriptor if one stands before it. -/
  | redirection (handle : Option Handle) (sign : String)

/-- A document that was asked for. -/
structure Requested where
  number : Nat
  delimiter : List Char
  /-- Whether nothing in it is expanded. -/
  quoted : Bool
  /-- Whether tabs before its lines are dropped. -/
  indented : Bool
  /-- The line that asks for it. -/
  line : Nat

/-- What is left to read. -/
structure Source where
  rest : List Char
  line : Nat
  /-- The text from the start of the line that is being read. -/
  current : List Char
  /-- The line of the last token, and the text from the start of that line. -/
  place : Nat × List Char
  /-- A token that was read and given back. -/
  pushed : Option Token
  requested : List Requested
  /-- The documents that were read. -/
  documents : List (Nat × List Part)
  /-- The number of the document that is asked for next. -/
  nextDocument : Nat
  /-- What is told of the script though nothing is wrong with it, by line. -/
  warnings : List (Nat × String)
  /-- Whether patterns may hold alternatives. -/
  alternatives : Bool
  /-- Names that stand for the start of a command, with its text. -/
  aliases : List (String × String)
  /-- The names whose texts are being read, with how much is left behind each text. -/
  replaced : List (String × Nat)

/-- A script of which nothing has been read; its documents are numbered from a given
    number on. -/
def Source.ofText (nextDocument : Nat) (alternatives : Bool) (text : List Char) : Source :=
  ⟨text, 1, text, (1, text), none, [], [], nextDocument, [], alternatives, [], []⟩

/-- The last line of which something has been read. -/
def Source.lastLine (s : Source) : Nat :=
  if s.current.length = s.rest.length then s.line - 1 else s.line

/-- Steps of reading. -/
abbrev Reader := StateT Source (Except Fault)

namespace Reader

/-- Refuse the script for what is wrong on a line, which is not shown. -/
def refuseAt {α : Type} (line : Nat) (text : String) : Reader α := throw ⟨line, [text], none, false⟩

/-- Refuse the script because something is not closed that starts on a line. -/
def unclosed {α : Type} (line : Nat) (mark : String) : Reader α :=
  refuseAt line ("unexpected EOF while looking for matching \x60" ++ mark ++ "'")

/-- Read something for which only the line is given up if something is wrong. -/
def onOneLine {α : Type} (r : Reader α) : Reader α :=
  tryCatch r fun f => throw { f with onlyLine := true }

/-- The line behind the last one of a script that has been read to its end. -/
def finishLine : Reader Nat := do
  let s ← get
  return match s.current with
    | [] => s.line
    | _ => s.line + 1

/-- Refuse the script because it ends. -/
def refuseFinish {α : Type} : Reader α := do
  refuseAt (← finishLine) "syntax error: unexpected end of file"

/-- Refuse the script for what stands where the last token does, and show the line. -/
def refuseHere {α : Type} (messages : List String) : Reader α := do
  let (line, text) := (← get).place
  throw ⟨line, messages, some (String.ofList (text.takeWhile (· ≠ '\n'))), false⟩

/-- The text that stands where a line has been read up to: the word there, or a sign. -/
def nearText (line : Array Char) (place : Nat) : String :=
  let isGap (c : Char) : Bool := c == ' ' || c == '\t' || c == '\n'
  let isBreak (c : Char) : Bool := isGap c || c == ';' || c == '|' || c == '&'
  let read := line.toList.take (place + 1)
  let upTo := (read.reverse.dropWhile isGap)
  match upTo with
  | [] => String.ofList (line.toList.take 1)
  | c :: _ =>
    let word := upTo.takeWhile (!isBreak ·)
    if word.isEmpty then String.singleton c else String.ofList word.reverse

/-- The text that stands where the last token ends, in its line. -/
def near : Reader String := do
  let s ← get
  let text := s.place.2
  let line := text.takeWhile (· ≠ '\n')
  return nearText line.toArray (min line.length (text.length - s.rest.length))

/-- The line and what is left behind line joints, with the text from the start of the line. -/
def joined (line : Nat) (current : List Char) : List Char → Nat × List Char × List Char
  | '\\' :: '\n' :: cs => joined (line + 1) cs cs
  | cs => (line, current, cs)

/-- The next character behind line joints, which stays. -/
def peek : Reader (Option Char) :=
  modifyGet fun s =>
    let (line, current, rest) := joined s.line s.current s.rest
    (rest.head?, { s with line, current, rest })

/-- Pass over a character. -/
def skip : Reader Unit :=
  modify fun s => match s.rest with
    | [] => s
    | c :: rest =>
      if c = '\n' then { s with rest, line := s.line + 1, current := rest } else { s with rest }

/-- The line behind a number of characters, the text from its start, and what is left. -/
def behind (line : Nat) (current : List Char) : Nat → List Char → Nat × List Char × List Char
  | 0, cs => (line, current, cs)
  | _ + 1, [] => (line, current, [])
  | n + 1, c :: cs =>
    if c = '\n' then behind (line + 1) cs n cs else behind line current n cs

/-- Pass over a number of characters. -/
def drop (count : Nat) : Reader Unit :=
  modify fun s =>
    let (line, current, rest) := behind s.line s.current count s.rest
    { s with line, current, rest }

/-- Pass over the next character if it is the given one, and tell. -/
def skipIf (c : Char) : Reader Bool := do
  if (← peek) == some c then
    skip
    return true
  else return false

/-- Read something else from other text, and go on with this text. -/
def within {α : Type} (text : List Char) (r : Reader α) : Reader α := do
  let s ← get
  set { s with rest := text, pushed := none, requested := [] }
  let a ← r
  modify fun inner => { inner with
    rest := s.rest, line := s.line, current := s.current, pushed := s.pushed
    place := s.place, requested := s.requested }
  return a

/-- Note where a token stands. -/
def mark : Reader Unit := modify fun s => { s with place := (s.line, s.current) }

/-- A number that bounds the steps in which the rest is read, with names replaced in it. -/
def bound : Reader Nat := do
  let s ← get
  return (s.aliases.map (·.2.length)).foldl (· + ·) (s.rest.length + 2)

/-- Put the text of a name where it stood that was just read, unless the text is being read;
    whether that was done is returned. -/
def replaceName (name : String) : Reader Bool := do
  let s ← get
  let replaced := s.replaced.filter (·.2 ≤ s.rest.length)
  match s.aliases.lookup name with
  | some text =>
    if replaced.any (·.1 == name) then return false
    set { s with
      rest := text.toList ++ s.rest
      replaced := (name, s.rest.length) :: replaced }
    return true
  | none => return false

end Reader

/-- What follows a character that quotes, up to its second occurrence. -/
def apostrophe? (cs : List Char) : Option (List Char × List Char) :=
  let text := cs.takeWhile (· ≠ '\'')
  match cs.drop text.length with
  | [] => none
  | _ :: rest => some (text, rest)

/-- A text between apostrophes behind a dollar sign, in which a backslash takes the meaning
    of an apostrophe away, and what follows it. -/
def escaped? : List Char → Option (List Char × List Char)
  | [] => none
  | '\'' :: cs => some ([], cs)
  | '\\' :: c :: cs => (escaped? cs).map fun (text, rest) => ('\\' :: c :: text, rest)
  | c :: cs => (escaped? cs).map fun (text, rest) => (c :: text, rest)

/-- The text up to a closing mark, and what follows the mark. Marks in quotes and in
    expansions do not count, and neither do pairs of parentheses or brackets if one of them
    closes. `fuel` bounds the length of the text. -/
def upTo? (close : Char) : Nat → List Char → Option (List Char × List Char)
  | 0, _ | _, [] => none
  | fuel + 1, c :: cs =>
    if c = close then some ([], cs)
    else
      let after (head : List Char) (rest : List Char) : Option (List Char × List Char) :=
        (upTo? close fuel rest).map fun (text, rest) => (head ++ text, rest)
      let inner (head : List Char) (mark : Char) (rest : List Char) :
          Option (List Char × List Char) :=
        (upTo? mark fuel rest).bind fun (text, rest) => after (head ++ text ++ [mark]) rest
      let apostrophes := close != '"' && close != '\x60'
      match c, cs with
      | '\\', d :: rest => after ['\\', d] rest
      | '\'', _ =>
        if apostrophes then
          (apostrophe? cs).bind fun (text, rest) => after ('\'' :: text ++ ['\'']) rest
        else after [c] cs
      | '"', _ => if close = '\x60' then after [c] cs else inner ['"'] '"' cs
      | '\x60', _ => inner ['\x60'] '\x60' cs
      | '$', '\x7b' :: rest => if close = '\x60' then after [c] cs else inner ['$', '\x7b'] '\x7d' rest
      | '$', '(' :: rest => if close = '\x60' then after [c] cs else inner ['$', '('] ')' rest
      | '$', '\'' :: rest =>
        if apostrophes then
          (escaped? rest).bind fun (text, rest) => after ('$' :: '\'' :: text ++ ['\'']) rest
        else after [c] cs
      | '(', _ => if close = ')' then inner ['('] ')' cs else after [c] cs
      | '[', _ => if close = ']' then inner ['['] ']' cs else after [c] cs
      | _, _ => after [c] cs

/-- The text up to a closing mark, and what follows the mark. -/
def balanced? (close : Char) (cs : List Char) : Option (List Char × List Char) :=
  upTo? close (cs.length + 1) cs

example : balanced? '\x7d' "a:-$\x7bb\x7d'\x7d'\"\x7d\"\x7d rest".toList =
    some ("a:-$\x7bb\x7d'\x7d'\"\x7d\"".toList, " rest".toList) := by decide

end CompileTree.Shell.Extended
