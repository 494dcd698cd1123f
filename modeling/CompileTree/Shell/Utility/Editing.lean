import CompileTree.Shell.Utility.Regex

/-! # Scripts that edit lines

A script is a list of commands, each of them for the lines in its scope. It is read
from texts that follow each other. What is wrong with a text is told with the number
of characters, or of lines, that were read of it.
-/

namespace CompileTree.Shell.Utility.Editing

/-- What is sought in a line. -/
structure Sought where
  expression : Regex
  groups : Nat
  ignoresCase : Bool

/-- Which lines a command is for. -/
inductive Address where
  | line (n : Nat)
  /-- A line and each one that is a number of lines behind another of them. -/
  | every (first step : Nat)
  | last
  /-- The lines in which something is found. Nothing stands for what was sought last. -/
  | containing (s : Option Sought)

/-- Where a range of lines ends. -/
inductive Finish where
  | at (a : Address)
  /-- A number of lines behind the first one. -/
  | behind (lines : Nat)
  /-- At the next line behind the first one whose number is a multiple. -/
  | multiple (n : Nat)

/-- The lines that a command is for: all of them, those of an address or ranges. -/
structure Scope where
  first : Option Address
  finish : Option Finish
  negated : Bool

/-- How the letters that follow are written. -/
inductive Casing where
  | plain
  | lower
  | upper
  /-- Only the next letter. -/
  | lowerOne
  | upperOne
  deriving DecidableEq, Repr

/-- A part of what takes the place of a match. -/
inductive Piece where
  | text (cs : List Char)
  /-- What a group matches, or the whole match for zero. -/
  | group (n : Nat)
  | casing (c : Casing)
  deriving DecidableEq, Repr

/-- What is to be replaced in a line, and how. -/
structure Substitution where
  sought : Option Sought
  pieces : List Piece
  everywhere : Bool
  /-- The number of the first match that is replaced. -/
  nth : Nat
  shows : Bool
  /-- The file to which the line is written. -/
  target : Option String

/-- When a jump is taken. -/
inductive Condition where
  | always
  /-- After a substitution in the line. -/
  | changed
  | unchanged
  deriving DecidableEq, Repr

/-- What a command does. -/
inductive Edit where
  | substitute (s : Substitution)
  | delete
  | deleteFirst
  | show
  | showFirst
  | number
  | list (width : Option Nat)
  | fileName
  | clear
  | exchange (pairs : List (Char × Char))
  | insert (text : List Char)
  | append (text : List Char)
  | change (text : List Char)
  | quit (status : Nat)
  | abandon (status : Nat)
  | next
  | appendNext
  | hold
  | holdMore
  | fetch
  | fetchMore
  | swap
  | readFile (name : String)
  | readLine (name : String)
  | write (name : String)
  | writeFirst (name : String)
  | jump (c : Condition) (label : String)
  /-- The start of a block: where it does not apply, what follows the block comes next. -/
  | block (after : Nat)
  | nothing

/-- A command with the lines it is for. -/
structure Command where
  scope : Scope
  edit : Edit

/-- What is known of a script while it is read. -/
structure Reading where
  rest : List Char
  /-- How many characters and lines were read of the text. -/
  count : Nat
  line : Nat
  commands : Array Command
  /-- The blocks that are open, with the numbers of the texts in which they start. -/
  blocks : List (Nat × Nat)
  labels : List (String × Nat)
  /-- The part of a command's text that the next text goes on with. -/
  pending : Option (List Char)
  /-- Whether lines are only written where commands ask for it. -/
  quiet : Bool

/-- Steps in which a script is read. -/
abbrev Reader := ExceptT String (StateM Reading)

/-- The next character. -/
def next : Reader (Option Char) :=
  modifyGet fun s =>
    match s.rest with
    | [] => (none, s)
    | c :: rest =>
      (some c, { s with rest, count := s.count + 1, line := if c = '\n' then s.line + 1 else s.line })

/-- Give a character back. -/
def back (c : Option Char) : Reader Unit :=
  modify fun s =>
    match c with
    | none => s
    | some c =>
      { s with rest := c :: s.rest, count := s.count - 1, line := if c = '\n' then s.line - 1 else s.line }

/-- Whether a character is a gap within a line. -/
def isBlank (c : Char) : Bool := c == ' ' || c == '\t'

/-- Whether a character is a gap. -/
def isSpace (c : Char) : Bool := c == ' ' || ('\t' ≤ c && c ≤ '\r')

/-- Read the characters of a kind. -/
def spell (accepts : Char → Bool) : Reader (List Char) := do
  let cs := (← get).rest.takeWhile accepts
  for _ in cs do let _ ← next
  return cs

/-- The next character that is no blank. -/
def nextInk : Reader (Option Char) := do
  let _ ← spell isBlank
  next

/-- The number that starts with a digit. -/
def number (c : Option Char) : Reader Nat := do
  back c
  return Nat.ofDigitChars 10 (← spell Char.isDigit) 0

/-- Nothing but the end of a command may come. -/
def finished : Reader Unit := do
  match ← nextInk with
  | none | some '\n' | some ';' => return
  | some c => if c = '\x7d' ∨ c = '#' then back (some c) else throw "extra characters after command"

/-- The value of a digit. -/
def digit? (base : Nat) (c : Char) : Option Nat :=
  let n := if c.isDigit then c.toNat - 48
    else if 'a' ≤ c ∧ c ≤ 'f' then c.toNat - 87
    else if 'A' ≤ c ∧ c ≤ 'F' then c.toNat - 55 else 99
  if n < base then some n else none

/-- The character that digits stand for, and what follows them. -/
def coded (base digits : Nat) (cs : List Char) : Option (Char × List Char) :=
  let ds := (cs.take digits).map (digit? base) |>.takeWhile Option.isSome
  if ds.isEmpty then none
  else some (Char.ofNat (ds.foldl (fun n d => base * n + d.getD 0) 0 % 256), cs.drop ds.length)

/-- The character that stands behind a backslash for another one, and what follows. -/
def escaped? : List Char → Option (Char × List Char)
  | 'a' :: cs => some ('\x07', cs)
  | 'f' :: cs => some ('\x0c', cs)
  | 'n' :: cs => some ('\n', cs)
  | 'r' :: cs => some ('\r', cs)
  | 't' :: cs => some ('\t', cs)
  | 'v' :: cs => some ('\x0b', cs)
  | 'c' :: c :: cs => some (Char.ofNat (c.toUpper.toNat ^^^ 64), cs)
  | 'd' :: cs => coded 10 3 cs
  | 'o' :: cs => coded 8 3 cs
  | 'x' :: cs => coded 16 2 cs
  | _ => none

/-- The spelling of an expression without the characters that only editing knows;
    `fuel` bounds its length. -/
def plainSpelling : Nat → List Char → List Char
  | 0, _ => []
  | _ + 1, [] => []
  | fuel + 1, '\\' :: cs =>
    match escaped? cs, cs with
    | some (c, rest), _ => c :: plainSpelling fuel rest
    | none, c :: rest =>
      if c ∈ ['d', 'o', 'x', 'c'] then c :: plainSpelling fuel rest
      else '\\' :: c :: plainSpelling fuel rest
    | none, [] => ['\\']
  | fuel + 1, c :: cs => c :: plainSpelling fuel cs

/-- The text of a command without its backslashes; `fuel` bounds its length. -/
def plainText : Nat → List Char → List Char
  | 0, _ => []
  | _ + 1, [] => []
  | fuel + 1, '\\' :: cs =>
    match escaped? cs, cs with
    | some (c, rest), _ => c :: plainText fuel rest
    | none, c :: rest => c :: plainText fuel rest
    | none, [] => []
  | fuel + 1, c :: cs => c :: plainText fuel cs

/-- Where a set of characters in an expression stands open. -/
inductive Within where
  | outside
  /-- At its start, where a closing bracket stands for itself. -/
  | start (negated : Bool)
  | inside
  /-- In a class or another symbol with a mark; whether the last character was the mark. -/
  | symbol (mark : Char) (marked : Bool)

/-- Go on by a character of an expression; `ahead` is what follows it. -/
def Within.on (w : Within) (c : Char) (ahead : List Char) : Within :=
  let opens := c == '[' && ahead.head?.any (· ∈ [':', '.', '='])
  let inner : Within := if opens then .symbol (ahead.headD ':') false else .inside
  match w with
  | .outside => if c = '[' then .start false else .outside
  | .start negated => if c = '^' ∧ !negated then .start true else inner
  | .inside => if c = ']' then .outside else inner
  | .symbol mark marked =>
    if c = ']' ∧ marked then .inside else .symbol mark (c == mark)

/-- The text up to a separator. In an expression a separator in a set does not count. -/
def upTo (separator : Char) (isExpression : Bool) : Nat → Within → Reader (Option (List Char))
  | 0, _ => return none
  | fuel + 1, w => do
    let onward (cs : List Char) (w : Within) : Reader (Option (List Char)) := do
      return (← upTo separator isExpression fuel w).map (cs ++ ·)
    match ← next with
    | none => return none
    | some '\n' =>
      back (some '\n')
      return none
    | some c =>
      let rest := (← get).rest
      match w with
      | .outside =>
        if c = separator then return some []
        else if c = '\\' then
          match ← next with
          | none => return none
          | some d =>
            if d = 'n' ∧ isExpression then onward ['\n'] w
            else if d = '\n' ∨ (d = separator ∧ (isExpression ∨ d ≠ '&')) then onward [d] w
            else onward ['\\', d] w
        else onward [c] (if isExpression then w.on c rest else w)
      | w =>
        if c = '\\' ∧ rest.head? = some 'n' then
          let _ ← next
          onward ['\n'] .inside
        else onward [c] (w.on c rest)

/-- The text up to a separator. -/
def textUpTo (separator : Char) (isExpression : Bool) : Reader (Option (List Char)) := do
  upTo separator isExpression ((← get).rest.length + 1) .outside

/-- What an expression seeks. An empty one stands for what was sought last. -/
def sought (extended : Bool) (text : List Char) (ignoresCase byLine : Bool) :
    Reader (Option Sought) := do
  if text.isEmpty then return none
  match (Regex.Dialect.editing extended byLine).read (plainSpelling (text.length + 1) text) with
  | .ok (r, groups) => return some ⟨r, groups, ignoresCase⟩
  | .error fault => throw fault

/-- The letters that say how an address is sought; `fuel` bounds their number. -/
def soughtFlags : Nat → Bool × Bool → Reader (Bool × Bool)
  | 0, flags => return flags
  | fuel + 1, (ignoresCase, byLine) => do
    match ← nextInk with
    | some 'I' => soughtFlags fuel (true, byLine)
    | some 'M' => soughtFlags fuel (ignoresCase, true)
    | c =>
      back c
      return (ignoresCase, byLine)

/-- The address that starts with a character. -/
def address? (extended : Bool) (c : Option Char) : Reader (Option Address) := do
  match c with
  | some '$' => return some .last
  | some '/' => pattern '/'
  | some '\\' =>
    match ← next with
    | some c => pattern c
    | none => throw "unterminated address regex"
  | some c =>
    if !c.isDigit then return none
    let first ← number (some c)
    match ← nextInk with
    | some '~' =>
      let step ← number (← nextInk)
      return some (if step = 0 then .line first else .every first step)
    | c =>
      back c
      return some (.line first)
  | none => return none
where
  pattern (separator : Char) : Reader (Option Address) := do
    match ← textUpTo separator true with
    | none => throw "unterminated address regex"
    | some text =>
      let (ignoresCase, byLine) ← soughtFlags ((← get).rest.length + 1) (false, false)
      return some (.containing (← sought extended text ignoresCase byLine))

/-- The end of a range that starts with a character. -/
def finish? (extended : Bool) (c : Option Char) : Reader (Option Finish) := do
  match c with
  | some '+' => return some (.behind (← number (← nextInk)))
  | some '~' => return some (.multiple (← number (← nextInk)))
  | c => return (← address? extended c).map .at

/-- The lines that a command is for, which start with a character, and the character
    that follows them. -/
def scope (extended : Bool) (c : Option Char) : Reader (Scope × Option Char) := do
  if c = some '+' ∨ c = some '~' then
    let _ ← number (← nextInk)
    throw "invalid usage of +N or ~N as first address"
  match ← address? extended c with
  | none => return (⟨none, none, false⟩, c)
  | some first =>
    let (finish, c) ← match ← nextInk with
      | some ',' =>
        match ← finish? extended (← nextInk) with
        | none => throw "unexpected \x60,'"
        | some f => pure (some f, ← nextInk)
      | c => pure (none, c)
    match first, finish with
    | .line 0, some (.at (.containing _)) => pure ()
    | .line 0, _ => throw "invalid usage of line address 0"
    | _, _ => pure ()
    return (⟨some first, finish, false⟩, c)

/-- A label. -/
def label : Reader String := do
  let _ ← spell isBlank
  return String.ofList (← spell fun c => !isSpace c && c != ';' && c != '\x7d')

/-- The name of a file, which goes up to the end of the line. -/
def fileName : Reader String := do
  let _ ← spell isBlank
  let cs ← spell (· ≠ '\n')
  let _ ← next
  if cs.isEmpty then throw "missing filename in r/R/w/W commands"
  return String.ofList cs

/-- The text of a command up to the end of its line, where a backslash keeps the line end,
    with whether it ends with a backslash instead; `fuel` bounds its length. -/
def textLines : Nat → Reader (List Char × Bool)
  | 0 => return ([], false)
  | fuel + 1 => do
    match ← next with
    | none | some '\n' => return (['\n'], false)
    | some '\\' =>
      match ← next with
      | none => return ([], true)
      | some c =>
        let (cs, isOpen) ← textLines fuel
        return ('\\' :: c :: cs, isOpen)
    | some c =>
      let (cs, isOpen) ← textLines fuel
      return (c :: cs, isOpen)

/-- The text of a command behind what was read of it. -/
def textBehind (before : List Char) : Reader (List Char) := do
  let (cs, isOpen) ← textLines ((← get).rest.length + 1)
  let text := before ++ cs
  if isOpen then modify fun s => { s with pending := some (text ++ ['\n']) }
  return plainText (text.length + 1) (if isOpen then text ++ ['\n'] else text)

/-- The text of a command. -/
def text : Reader (List Char) := do
  match ← nextInk with
  | none => throw "expected \\ after \x60a', \x60c' or \x60i'"
  | some '\\' =>
    match ← next with
    | none =>
      modify fun s => { s with pending := some [] }
      return []
    | some '\n' => textBehind []
    | c =>
      back c
      textBehind []
  | some c =>
    back (some c)
    textBehind []

/-- The pieces of what takes the place of a match; `fuel` bounds their number. -/
def pieces : Nat → List Char → List Piece
  | 0, _ => []
  | _ + 1, [] => []
  | fuel + 1, '&' :: cs => .group 0 :: pieces fuel cs
  | fuel + 1, '\\' :: cs =>
    match escaped? cs, cs with
    | some (c, rest), _ => .text [c] :: pieces fuel rest
    | none, c :: rest =>
      let piece : Piece := match c with
        | 'L' => .casing .lower
        | 'U' => .casing .upper
        | 'E' => .casing .plain
        | 'l' => .casing .lowerOne
        | 'u' => .casing .upperOne
        | c => if c.isDigit then .group (c.toNat - 48) else .text [c]
      piece :: pieces fuel rest
    | none, [] => [.text ['\\']]
  | fuel + 1, c :: cs => .text [c] :: pieces fuel cs

/-- The flags of a substitution, with whether letters are compared without their case and
    whether every line counts for itself; `fuel` bounds their number. -/
def flags : Nat → Substitution × Bool × Bool → Reader (Substitution × Bool × Bool)
  | 0, f => return f
  | fuel + 1, (s, ignoresCase, byLine) => do
    match ← next with
    | none | some '\n' | some ';' => return (s, ignoresCase, byLine)
    | some ' ' => flags fuel (s, ignoresCase, byLine)
    | some 'i' | some 'I' => flags fuel (s, true, byLine)
    | some 'm' | some 'M' => flags fuel (s, ignoresCase, true)
    | some 'g' =>
      if s.everywhere then throw "multiple \x60g' options to \x60s' command"
      flags fuel ({ s with everywhere := true }, ignoresCase, byLine)
    | some 'p' =>
      if s.shows then throw "multiple \x60p' options to \x60s' command"
      flags fuel ({ s with shows := true }, ignoresCase, byLine)
    | some 'w' => return ({ s with target := some (← fileName) }, ignoresCase, byLine)
    | some c =>
      if c = '\x7d' ∨ c = '#' then
        back (some c)
        return (s, ignoresCase, byLine)
      if !c.isDigit then throw "unknown option to \x60s'"
      if s.nth ≠ 0 then throw "multiple number options to \x60s' command"
      let nth ← number (some c)
      if nth = 0 then throw "number option to \x60s' command may not be zero"
      flags fuel ({ s with nth }, ignoresCase, byLine)

/-- Read a substitution behind its letter. -/
def substitution (extended : Bool) : Reader Edit := do
  let missing := "unterminated \x60s' command"
  match ← next with
  | none => throw missing
  | some separator =>
    match ← textUpTo separator true with
    | none => throw missing
    | some expression =>
      match ← textUpTo separator false with
      | none => throw missing
      | some replacement =>
        let pieces := pieces (replacement.length + 1) replacement
        let start : Substitution := ⟨none, pieces, false, 0, false, none⟩
        let (s, ignoresCase, byLine) ← flags ((← get).rest.length + 1) (start, false, false)
        let sought ← sought extended expression ignoresCase byLine
        let most := pieces.foldl (fun n p => match p with
          | .group m => max n m
          | _ => n) 0
        match sought with
        | some r =>
          if r.groups < most then
            throw ("invalid reference \\" ++ toString most ++ " on \x60s' command's RHS")
        | none => pure ()
        return .substitute { s with sought }

/-- The characters of an exchange; `fuel` bounds their number. -/
def exchanged : Nat → List Char → List Char
  | 0, _ => []
  | _ + 1, [] => []
  | fuel + 1, '\\' :: cs =>
    match escaped? cs, cs with
    | some (c, rest), _ => c :: exchanged fuel rest
    | none, c :: rest => c :: exchanged fuel rest
    | none, [] => ['\\']
  | fuel + 1, c :: cs => c :: exchanged fuel cs

/-- Read an exchange of characters behind its letter. -/
def exchange : Reader Edit := do
  let missing := "unterminated \x60y' command"
  match ← next with
  | none => throw missing
  | some separator =>
    match ← textUpTo separator false with
    | none => throw missing
    | some source =>
      match ← textUpTo separator false with
      | none => throw missing
      | some target =>
        let source := exchanged (source.length + 1) source
        let target := exchanged (target.length + 1) target
        if source.length ≠ target.length then
          throw "strings for \x60y' command are different lengths"
        finished
        return .exchange (source.zip target)

/-- The number that may follow the letter of a command. -/
def argument : Reader (Option Nat) := do
  let c ← nextInk
  let n ← if c.any Char.isDigit then some <$> number c else
    back c
    pure none
  finished
  return n

/-- Read what a command does behind its letter. -/
def edit (extended : Bool) (s : Scope) (c : Char) : Reader Edit := do
  let plain (e : Edit) : Reader Edit := do
    finished
    return e
  let single : Reader Unit := if s.finish.isSome then throw "command only uses one address" else pure ()
  match c with
  | 's' => substitution extended
  | 'y' => exchange
  | 'd' => plain .delete
  | 'D' => plain .deleteFirst
  | 'p' => plain .show
  | 'P' => plain .showFirst
  | '=' => plain .number
  | 'F' => plain .fileName
  | 'z' => plain .clear
  | 'n' => plain .next
  | 'N' => plain .appendNext
  | 'h' => plain .hold
  | 'H' => plain .holdMore
  | 'g' => plain .fetch
  | 'G' => plain .fetchMore
  | 'x' => plain .swap
  | 'l' => return .list (← argument)
  | 'q' =>
    single
    return .quit ((← argument).getD 0)
  | 'Q' =>
    single
    return .abandon ((← argument).getD 0)
  | 'i' => return .insert (← text)
  | 'a' => return .append (← text)
  | 'c' => return .change (← text)
  | 'r' => return .readFile (← fileName)
  | 'R' => return .readLine (← fileName)
  | 'w' => return .write (← fileName)
  | 'W' => return .writeFirst (← fileName)
  | 'b' => return .jump .always (← label)
  | 't' => return .jump .changed (← label)
  | 'T' => return .jump .unchanged (← label)
  | 'v' =>
    let _ ← label
    return .nothing
  | ':' =>
    if s.first.isSome then throw ": doesn't want any addresses"
    let name ← label
    if name = "" then throw "\":\" lacks a label"
    modify fun r => { r with labels := (name, r.commands.size) :: r.labels }
    return .nothing
  | '\x7b' => return .block 0
  | '\x7d' =>
    match (← get).blocks with
    | [] => throw "unexpected \x60\x7d'"
    | (start, _) :: blocks =>
      if s.first.isSome then throw "unexpected \x60\x7d'"
      finished
      modify fun r =>
        let close (k : Command) : Command := { k with edit := .block r.commands.size }
        { r with blocks, commands := r.commands.modify start close }
      return .nothing
  | c => throw ("unknown command: \x60" ++ String.singleton c ++ "'")

/-- Read a remark. At the very start of a script it may ask for silence. -/
def remark (isFirst : Bool) : Reader Unit := do
  let isStart := (← get).count == 1
  let cs ← spell (· ≠ '\n')
  let _ ← next
  if isFirst && isStart && cs.head? == some 'n' then modify fun s => { s with quiet := true }

/-- Read commands from the text with a number; `fuel` bounds their number. -/
def commands (extended : Bool) (index : Nat) : Nat → Reader Unit
  | 0 => return
  | fuel + 1 => do
    let _ ← spell fun c => isSpace c || c == ';'
    match ← next with
    | none => return
    | some c =>
      let (s, c) ← scope extended (some c)
      let (s, c) ← match c with
        | some '!' =>
          match ← nextInk with
          | some '!' => throw "multiple \x60!'s"
          | c => pure ({ s with negated := true }, c)
        | c => pure (s, c)
      match c with
      | none => throw "missing command"
      | some '#' =>
        if s.first.isSome then throw "comments don't accept any addresses"
        remark (index = 1)
      | some c =>
        let e ← edit extended s c
        modify fun r =>
          { r with
            blocks := if c = '\x7b' then (r.commands.size, index) :: r.blocks else r.blocks
            commands := r.commands.push ⟨s, e⟩ }
      commands extended index fuel

/-- Go on with the text of the last command. -/
def goOn : Reader Unit := do
  match (← get).pending with
  | none => return
  | some before =>
    modify fun s => { s with pending := none }
    let text ← textBehind before
    let extend (k : Command) : Command :=
      { k with edit := match k.edit with
        | .insert _ => .insert text
        | .append _ => .append text
        | .change _ => .change text
        | e => e }
    modify fun s => { s with commands := s.commands.modify (s.commands.size - 1) extend }

/-- A text of which a script is made, and the file it is from. -/
structure Source where
  text : List Char
  file : Option String

/-- A script that can be run. -/
structure Script where
  commands : Array Command
  labels : List (String × Nat)
  quiet : Bool

/-- What is wrong with a script: where, if it is at one place, and what. -/
structure Fault where
  place : Option String
  text : String

/-- Read the sources of a script that come with their numbers. -/
def readSources (extended : Bool) : List (Source × Nat) → Reading → Except Fault Reading
  | [], s => .ok s
  | (source, index) :: rest, s =>
    let start := { s with rest := source.text, count := 0, line := 1 }
    let steps : Reader Unit := do
      goOn
      commands extended index (source.text.length + 1)
    match steps.run.run start with
    | (.ok (), s) => readSources extended rest s
    | (.error text, s) =>
      .error ⟨some (match source.file with
        | some file => "file " ++ file ++ " line " ++ toString s.line
        | none => "-e expression #" ++ toString index ++ ", char " ++ toString s.count), text⟩

/-- The label that a command jumps to. -/
def Command.label? (k : Command) : Option String :=
  match k.edit with
  | .jump _ name => if name = "" then none else some name
  | _ => none

/-- Read a script from its sources. -/
def Script.ofSources (extended : Bool) (sources : List Source) : Except Fault Script := do
  let expressions := sources.zipIdx.map fun (s, i) =>
    (s, ((sources.take (i + 1)).filter (·.file.isNone)).length)
  let s ← readSources extended expressions ⟨[], 0, 1, #[], [], [], none, false⟩
  match s.blocks.head? with
  | some (_, index) =>
    throw ⟨some ("-e expression #" ++ toString index ++ ", char 0"), "unmatched \x60\x7b'"⟩
  | none => pure ()
  let known := s.labels.map (·.1)
  match (s.commands.toList.filterMap Command.label?).reverse.find? (· ∉ known) with
  | some name => throw ⟨none, "can't find label for jump to \x60" ++ name ++ "'"⟩
  | none => return ⟨s.commands, s.labels, s.quiet⟩

/-- Where a script goes on at a label. The end stands for no label. -/
def Script.target (s : Script) (label : String) : Nat :=
  if label = "" then s.commands.size else (s.labels.lookup label).getD s.commands.size

end CompileTree.Shell.Utility.Editing
