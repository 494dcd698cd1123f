import CompileTree.Shell.Script

/-! # Reading words

A word goes on until a blank or an operator. What stands in it may be quoted, and
a dollar sign or a backward quote starts an expansion. How commands within words
are read is left open here: `command true` reads one up to a closing parenthesis,
which it passes over, and `command false` one up to the end of the text.
-/

/-! ## Reading scripts

What is left to read of a script, and the steps in which it is read. A backslash
at the end of a line joins the next line to it. Documents stand behind the line
that asks for them, so they are kept by number until they have been read.
-/

namespace CompileTree.Shell.Script

/-- A fault in a script. -/
structure Fault where
  line : Nat
  text : String
  deriving DecidableEq, Repr

/-- A word, an operator, a line end or a redirection. -/
inductive Token where
  | word (w : Word)
  /-- A word that has a meaning of its own where a command may start. -/
  | keyword (text : String)
  | operator (text : String)
  | lineEnd
  | finish
  /-- The sign of a redirection, with its descriptor if one stands before it. -/
  | redirection (descriptor : Option Nat) (sign : String)

/-- A document that was asked for. -/
structure Requested where
  number : Nat
  delimiter : List Char
  /-- Whether nothing in it is expanded. -/
  quoted : Bool
  /-- Whether tabs before its lines are dropped. -/
  indented : Bool

/-- An alias that was replaced by its text. -/
structure Unfolded where
  name : String
  /-- Whether its text ends with a blank, so that the word behind it may be an alias too. -/
  opensNext : Bool
  /-- How many characters stand behind its text. -/
  behind : Nat

/-- What is left to read. -/
structure Source where
  rest : List Char
  line : Nat
  /-- The aliases with their texts. -/
  aliases : List (String × String)
  /-- The aliases whose texts are being read, the last one first. -/
  unfolded : List Unfolded
  /-- A token that was read and given back. -/
  pushed : Option Token
  requested : List Requested
  /-- The documents that were read. -/
  documents : List (Nat × Word)
  /-- The number of the document that is asked for next. -/
  nextDocument : Nat

/-- A script of which nothing has been read; its documents are numbered from a
    given number on. -/
def Source.ofText (nextDocument : Nat) (text : List Char) : Source :=
  ⟨text, 1, [], [], none, [], [], nextDocument⟩

/-- Steps of reading. -/
abbrev Reader := StateT Source (Except Fault)

namespace Reader

/-- Refuse the script. -/
def refuse {α : Type} (text : String) : Reader α := do
  throw ⟨(← get).line, text⟩

/-- Pass over line joints. -/
def joined (line : Nat) : List Char → Nat × List Char
  | '\\' :: '\n' :: cs => joined (line + 1) cs
  | cs => (line, cs)

/-- The next character behind line joints, which stays. -/
def peek : Reader (Option Char) :=
  modifyGet fun s =>
    let (line, rest) := joined s.line s.rest
    (rest.head?, { s with line, rest })

/-- Pass over a character. -/
def skip : Reader Unit :=
  modify fun s => match s.rest with
    | [] => s
    | c :: rest => { s with rest, line := if c = '\n' then s.line + 1 else s.line }

/-- Pass over a number of characters that are no line ends. -/
def drop (count : Nat) : Reader Unit :=
  modify fun s => { s with rest := s.rest.drop count }

/-- Pass over the next character if it is the given one, and tell. -/
def skipIf (c : Char) : Reader Bool := do
  if (← peek) == some c then
    skip
    return true
  else return false

/-- Read something else from other text, and go on with this text. Line numbers
    start again there. -/
def within {α : Type} (text : List Char) (line : Nat) (r : Reader α) : Reader α := do
  let s ← get
  set { s with rest := text, line, unfolded := [], pushed := none, requested := [] }
  let a ← r
  modify fun inner => { inner with rest := s.rest, line := s.line, unfolded := s.unfolded,
                                   pushed := s.pushed, requested := s.requested }
  return a

end Reader

end CompileTree.Shell.Script

namespace CompileTree.Shell.Script.Reader

/-- What surrounds the part of a word that is being read. -/
inductive Surrounding where
  | nothing
  | quotes
  /-- The braces of an expansion. -/
  | braces
  /-- The braces of an expansion within quotation marks. -/
  | quotedBraces
  | document
  /-- The parentheses of an expression; `depth` more are open within. -/
  | expression (depth : Nat)
  deriving DecidableEq, Repr

namespace Surrounding

/-- Whether text in a surrounding counts as quoted. -/
def isQuoted : Surrounding → Bool
  | .nothing | .braces => false
  | _ => true

/-- Whether a backslash takes away the meaning of a character. -/
def escapes : Surrounding → Char → Bool
  | .nothing, _ | .braces, _ => true
  | .quotes, c | .expression _, c => c ∈ ['\\', '\x60', '$', '"']
  | .quotedBraces, c => c ∈ ['\\', '\x60', '$', '"', '\x7d']
  | .document, c => c ∈ ['\\', '\x60', '$']

/-- What is wrong with a script that ends in a surrounding. -/
def unfinished : Surrounding → Option String
  | .nothing | .document => none
  | .quotes | .quotedBraces => some "Unterminated quoted string"
  | .braces => some "Missing '\x7d'"
  | .expression _ => some "Missing '))'"

/-- The surrounding of a word in braces. -/
def inBraces (around : Surrounding) : Surrounding :=
  if around.isQuoted then .quotedBraces else .braces

end Surrounding

/-- The characters that end a word outside quotes. -/
def endsWord (c : Char) : Bool := c ∈ [' ', '\t', '\n', ';', '&', '|', '<', '>', '(', ')']

/-- The parameter that a sign stands for. -/
def special? : Char → Option Parameter
  | '#' => some .count
  | '@' => some .each
  | '*' => some .joined
  | '?' => some .status
  | '$' => some .process
  | '-' => some .options
  | '!' => some .lastJob
  | _ => none

/-- The number that digits spell. -/
def digitsValue (cs : List Char) : Nat := Nat.ofDigitChars 10 cs 0

/-- The name or the number at the start of a text. -/
def named? (cs : List Char) : Option (Parameter × List Char) :=
  match cs with
  | [] => none
  | c :: _ =>
    if isNameStart c then
      some (.named (String.ofList (cs.takeWhile isNameChar)), cs.dropWhile isNameChar)
    else if c.isDigit then
      some (.position (digitsValue (cs.takeWhile Char.isDigit)), cs.dropWhile Char.isDigit)
    else none

/-- The parameter behind a dollar sign without braces. -/
def bareParameter? (cs : List Char) : Option (Parameter × List Char) :=
  match cs with
  | [] => none
  | c :: rest =>
    if c.isDigit then some (.position (digitsValue [c]), rest)
    else if isNameStart c then named? cs
    else (special? c).map (·, rest)

/-- The parameter behind an opening brace, and whether its length is asked for. -/
def bracedParameter? (cs : List Char) : Option ((Parameter × Bool) × List Char) :=
  match cs with
  | '#' :: cs =>
    match named? cs, cs with
    | some (p, rest), _ => some ((p, true), rest)
    | none, '\x7d' :: _ => some ((.count, false), cs)
    | none, c :: '\x7d' :: rest => (special? c).map fun p => ((p, true), '\x7d' :: rest)
    | none, _ => some ((.count, false), cs)
  | c :: rest =>
    match named? (c :: rest) with
    | some (p, rest) => some ((p, false), rest)
    | none => (special? c).map fun p => ((p, false), rest)
  | [] => none

/-- What stands between a parameter in braces and the word there. -/
inductive Sign where
  | closing
  | missing (how : Remedy) (alsoEmpty : Bool)
  | trim (how : Trim)
  | malformed

/-- The sign at the start of a text. A character that is no sign is dropped. -/
def sign (cs : List Char) : Sign × List Char :=
  match cs with
  | '\x7d' :: cs => (.closing, cs)
  | '#' :: '#' :: cs => (.trim .longestStart, cs)
  | '#' :: cs => (.trim .shortestStart, cs)
  | '%' :: '%' :: cs => (.trim .longestEnd, cs)
  | '%' :: cs => (.trim .shortestEnd, cs)
  | ':' :: c :: cs =>
    match remedy? c with
    | some how => (.missing how true, cs)
    | none => (.malformed, cs)
  | c :: cs =>
    match remedy? c with
    | some how => (.missing how false, cs)
    | none => (.malformed, cs)
  | [] => (.malformed, [])
where
  remedy? : Char → Option Remedy
    | '-' => some .other
    | '=' => some .assign
    | '?' => some .complain
    | '+' => some .instead
    | _ => none

/-- The text of a command between backward quotes, and what follows it. -/
def backward? (quoted : Bool) : List Char → Option (List Char × List Char)
  | [] => none
  | '\x60' :: cs => some ([], cs)
  | '\\' :: '\n' :: cs => backward? quoted cs
  | '\\' :: c :: cs =>
    (backward? quoted cs).map fun (text, rest) =>
      if c = '\\' ∨ c = '\x60' ∨ c = '$' ∨ (quoted ∧ c = '"') then (c :: text, rest)
      else ('\\' :: c :: text, rest)
  | c :: cs => (backward? quoted cs).map fun (text, rest) => (c :: text, rest)

/-- A word between quotation marks, with a mark that keeps it if it is empty. A
    word that stands for all arguments may vanish with them. -/
def markQuoted (w : Word) : Word :=
  match w with
  | [.value true .each .plain] => w
  | w => .text true [] :: w

/-- The parts of a word up to the end of its surrounding; a closing mark is
    passed over. -/
def parts (command : Bool → Reader Statement) : Nat → Surrounding → Reader Word
  | 0, _ => refuse "Word too long"
  | fuel + 1, around => do
    let quoted := around.isQuoted
    match ← peek with
    | none =>
      match around.unfinished with
      | some text => refuse text
      | none => return []
    | some c =>
      match around, c with
      | .quotes, '"' => skip; return []
      | .braces, '\x7d' | .quotedBraces, '\x7d' => skip; return []
      | .expression depth, '(' =>
        skip
        return Word.cons true ['('] (← parts command fuel (.expression (depth + 1)))
      | .expression (depth + 1), ')' =>
        skip
        return Word.cons true [')'] (← parts command fuel (.expression depth))
      | .expression 0, ')' =>
        skip
        if ← skipIf ')' then return []
        return Word.cons true [')'] (← parts command fuel (.expression 0))
      | around, '\\' =>
        skip
        match (← get).rest with
        | [] => return Word.cons true ['\\'] (← parts command fuel around)
        | d :: _ =>
          skip
          let text := if around.escapes d then [d] else ['\\', d]
          return Word.cons true text (← parts command fuel around)
      | around, '\x60' =>
        let line := (← get).line
        match backward? quoted ((← get).rest.drop 1) with
        | none =>
          let lineEnds := ((← get).rest.filter (· == '\n')).length
          throw ⟨line + lineEnds, "EOF in backquote substitution"⟩
        | some (text, rest) =>
          let passed := (← get).rest.take ((← get).rest.length - rest.length)
          modify fun s => { s with rest, line := line + (passed.filter (· == '\n')).length }
          let c ← within text 1 (command false)
          return .output quoted c :: (← parts command fuel around)
      | around, '$' =>
        skip
        let part ← dollar around fuel
        return part ++ (← parts command fuel around)
      | .nothing, '\'' | .braces, '\'' =>
        skip
        let text ← apostrophes
        return .text true [] :: Word.cons true text (← parts command fuel around)
      | .nothing, '"' | .braces, '"' | .quotedBraces, '"' =>
        skip
        let inner ← parts command fuel .quotes
        return markQuoted inner ++ (← parts command fuel around)
      | .nothing, c =>
        if endsWord c then return []
        skip
        return Word.cons false [c] (← parts command fuel .nothing)
      | around, c =>
        skip
        return Word.cons quoted [c] (← parts command fuel around)
where
  /-- Text up to an apostrophe, which is passed over. -/
  apostrophes : Reader (List Char) := do
    let s ← get
    let text := s.rest.takeWhile (· ≠ '\'')
    let line := s.line + (text.filter (· == '\n')).length
    match s.rest.drop text.length with
    | [] => throw ⟨line, "Unterminated quoted string"⟩
    | _ :: rest =>
      set { s with rest, line }
      return text
  /-- The expansion behind a dollar sign. -/
  dollar (around : Surrounding) : Nat → Reader Word
    | 0 => refuse "Word too long"
    | fuel + 1 => do
      let quoted := around.isQuoted
      match ← peek with
      | some '(' =>
        skip
        if ← skipIf '(' then
          return [.arithmetic quoted (← parts command fuel (.expression 0))]
        else
          let s ← get
          set { s with pushed := none, requested := [] }
          let c ← command true
          modify fun inner => { inner with requested := s.requested }
          return [.output quoted c]
      | some '\x7b' =>
        skip
        let s ← get
        match bracedParameter? s.rest with
        | none =>
          if s.rest.head? != some '\x7d' then drop 1
          let _ ← parts command fuel around.inBraces
          return [.value quoted .count .malformed]
        | some ((p, asksLength), rest) =>
          set { s with rest }
          if asksLength then
            if ← skipIf '\x7d' then return [.value quoted p .length]
            let _ ← parts command fuel around.inBraces
            return [.value quoted p .malformed]
          let _ ← peek
          let s ← get
          let (sign, rest) := sign s.rest
          set { s with rest }
          match sign with
          | .closing => return [.value quoted p .plain]
          | .missing how alsoEmpty =>
            let other ← parts command fuel around.inBraces
            return [.value quoted p (.missing how alsoEmpty other.withHome)]
          | .trim how =>
            return [.value quoted p (.trimmed how (← parts command fuel .braces).withHome)]
          | .malformed =>
            let _ ← parts command fuel around.inBraces
            return [.value quoted p .malformed]
      | _ =>
        let s ← get
        match bareParameter? s.rest with
        | some (p, rest) =>
          set { s with rest }
          return [.value quoted p .plain]
        | none => return [.text quoted ['$']]

/-- A word at the start of what is left. -/
def word (command : Bool → Reader Statement) : Reader Word := do
  return (← parts command ((← get).rest.length + 1) .nothing).withHome

end CompileTree.Shell.Script.Reader
