import CompileTree.Shell.Script.Words

/-! # Reading tokens

A script is a sequence of words, operators, redirections and line ends, with
blanks and remarks in between. Documents are read where the line ends that asks
for them.
-/

namespace CompileTree.Shell.Script

/-- The words that have a meaning of their own where a command may start. -/
def keywords : List String :=
  ["!", "case", "do", "done", "elif", "else", "esac", "fi", "for", "if", "in", "then", "until",
    "while", "\x7b", "\x7d"]

/-- How a token is named in complaints. -/
def Token.name : Token → String
  | .word _ => "word"
  | .keyword text | .operator text => "\"" ++ text ++ "\""
  | .lineEnd => "newline"
  | .finish => "end of file"
  | .redirection .. => "redirection"

/-- The word that a token is. -/
def Token.word? : Token → Option Word
  | .word w => some w
  | .keyword text => some [.text false text.toList]
  | _ => none

/-- Whether a token is a given operator or keyword. -/
def Token.is (t : Token) (text : String) : Bool :=
  match t with
  | .keyword k | .operator k => k == text
  | _ => false

namespace Reader

/-- Pass over blanks, line joints and, up to the end of its line, a remark. -/
def skipBlanks (inRemark : Bool) (line : Nat) : List Char → Nat × List Char
  | [] => (line, [])
  | c :: cs =>
    if inRemark then
      if c = '\n' then (line, c :: cs) else skipBlanks true line cs
    else if c = ' ' ∨ c = '\t' then skipBlanks false line cs
    else if c = '#' then skipBlanks true line cs
    else
      match c, cs with
      | '\\', '\n' :: cs => skipBlanks false (line + 1) cs
      | _, _ => (line, c :: cs)

/-- What follows an angle bracket in the sign of a redirection. -/
def redirectionSign (bracket : Char) : Reader String := do
  let start := String.singleton bracket
  match ← peek with
  | none => return start
  | some c =>
    let longer := start ++ String.singleton c
    if longer = "<<" then
      skip
      if ← skipIf '-' then return "<<-" else return "<<"
    else if longer ∈ [">>", ">|", ">&", "<&", "<>"] then
      skip
      return longer
    else return start

/-- An operator that may be doubled. -/
def operator (c : Char) : Reader Token := do
  skip
  let once := String.singleton c
  if c ∈ ['&', '|', ';'] then
    if ← skipIf c then return .operator (once ++ once)
  return .operator once

/-- The next token, or the one that was given back. -/
def token (command : Bool → Reader Statement) : Reader Token := do
  match (← get).pushed with
  | some t =>
    modify fun s => { s with pushed := none }
    return t
  | none =>
    modify fun s =>
      let (line, rest) := skipBlanks false s.line s.rest
      { s with line, rest }
    match ← peek with
    | none => return .finish
    | some c =>
      if c = '\n' then
        skip
        return .lineEnd
      else if c ∈ ['&', '|', ';', '(', ')'] then operator c
      else if c = '<' ∨ c = '>' then
        skip
        return .redirection none (← redirectionSign c)
      else
        let w ← word command
        match w, (← get).rest with
        | [.text false [d]], bracket :: _ =>
          if d.isDigit ∧ (bracket = '<' ∨ bracket = '>') then
            skip
            return .redirection (some (digitsValue [d])) (← redirectionSign bracket)
          else return .word w
        | w, _ => return .word w

/-- Give a token back. -/
def push (t : Token) : Reader Unit := modify fun s => { s with pushed := some t }

/-- The lines of a document, and what follows its delimiter. In a document that
    is expanded a line may be joined to the next one, which is no delimiter then. -/
def documentText (r : Requested) (joins : Bool) : Nat → List Char → List Char × List Char
  | 0, cs => ([], cs)
  | _ + 1, [] => ([], [])
  | fuel + 1, cs =>
    let line := cs.takeWhile (· ≠ '\n')
    let rest := cs.drop line.length
    let shown := if r.indented ∧ !joins then line.dropWhile (· == '\t') else line
    if shown = r.delimiter ∧ !joins then ([], rest.drop 1)
    else
      let backslashes := (line.reverse.takeWhile (· == '\\')).length
      let (text, after) := documentText r (!r.quoted && backslashes % 2 == 1) fuel (rest.drop 1)
      (shown ++ (rest.take 1) ++ text, after)

/-- Read the documents that were asked for. -/
def documents (command : Bool → Reader Statement) : Reader Unit := do
  let asked := (← get).requested
  modify fun s => { s with requested := [] }
  for r in asked do
    let s ← get
    let (text, rest) := documentText r false (s.rest.length + 1) s.rest
    let passed := s.rest.take (s.rest.length - rest.length)
    let w ←
      if r.quoted then pure [.text true text]
      else within text s.line (parts command (text.length + 1) .document)
    modify fun after => { after with
      rest, line := s.line + (passed.filter (· == '\n')).length
      documents := after.documents ++ [(r.number, w)] }

/-- The token behind line ends. -/
def behindLineEnds (command : Bool → Reader Statement) : Nat → Token → Reader Token
  | 0, t => return t
  | fuel + 1, t =>
    match t with
    | .lineEnd => do
      documents command
      behindLineEnds command fuel (← token command)
    | t => return t

/-- Replace an alias by its text, unless that is being read. The result tells whether it
    was replaced. -/
def unfold (name : String) : Reader Bool := do
  let s ← get
  match s.aliases.lookup name with
  | none => return false
  | some text =>
    let left := s.rest.length
    let current := s.unfolded.filter (·.behind ≤ left)
    if current.any (·.name == name) then return false
    let cs := text.toList
    let opensNext := cs.getLast?.any fun c => c == ' ' || c == '\t'
    set { s with
      rest := cs ++ s.rest
      unfolded := if cs.isEmpty then current else ⟨name, opensNext, left⟩ :: current }
    return true

/-- Whether reading has left the text of an alias that ends with a blank, since so many
    characters were left. -/
def hasLeft (left : Nat) : Reader Bool := do
  let s ← get
  return s.unfolded.any fun u => u.opensNext && u.behind ≤ left && s.rest.length < u.behind

/-- The next token of a place where keywords count, aliases count or line ends may be
    passed over; `fuel` bounds how often aliases are replaced. -/
def nextWhere (command : Bool → Reader Statement) (keywordsCount passLineEnds : Bool) :
    Nat → Bool → Reader Token
  | 0, _ => token command
  | fuel + 1, aliasesCount => do
    let s ← get
    let left := if s.unfolded.isEmpty then 0 else s.rest.length
    let t ← token command
    let t ← if passLineEnds then behindLineEnds command ((← get).rest.length + 1) t else pure t
    match t.word?.bind Word.plain? with
    | none => return t
    | some text =>
      if keywordsCount && text ∈ keywords then return .keyword text
      let aliasesCount := aliasesCount || (← hasLeft left)
      let replaced ← if aliasesCount then unfold text else pure false
      if replaced then nextWhere command keywordsCount passLineEnds fuel aliasesCount else return t

/-- A number that bounds the steps in which the rest is read, its aliases replaced. -/
def bound : Reader Nat := do
  let s ← get
  let total := (s.aliases.map (·.2.length)).foldl (· + ·) 0
  return (s.rest.length + 2) * (total + 1)

/-- The next token; where a command may start keywords and aliases count, and line ends
    may be passed over. -/
def next (command : Bool → Reader Statement) (keywordsCount passLineEnds : Bool) : Reader Token := do
  nextWhere command keywordsCount passLineEnds (← bound) keywordsCount

/-- The next token where keywords count, but aliases do not. Line ends are passed over. -/
def nextKeyword (command : Bool → Reader Statement) : Reader Token := do
  nextWhere command true true (← bound) false

/-- The next token where aliases count, but keywords do not. -/
def nextName (command : Bool → Reader Statement) : Reader Token := do
  nextWhere command false false (← bound) true

/-- The characters of a delimiter of a document, and whether any of them is quoted. -/
def delimiterFrom (quotes : Option Char) : List Char → Option ((List Char × Bool) × List Char)
  | [] => if quotes.isNone then some (([], false), []) else none
  | c :: cs =>
    let taken (quoted : Bool) (ds : List Char) (rest : Option ((List Char × Bool) × List Char)) :=
      rest.map fun ((text, q), after) => ((ds ++ text, quoted || q), after)
    match quotes with
    | some mark =>
      if c = mark then taken true [] (delimiterFrom none cs)
      else
        match c, cs with
        | '\\', d :: cs =>
          if mark = '"' ∧ d ∈ ['\\', '\x60', '$', '"'] then
            taken true [d] (delimiterFrom quotes cs)
          else taken true ['\\'] (delimiterFrom quotes (d :: cs))
        | c, cs => taken true [c] (delimiterFrom quotes cs)
    | none =>
      if endsWord c then some (([], false), c :: cs)
      else if c = '"' ∨ c = '\'' then taken true [] (delimiterFrom (some c) cs)
      else
        match c, cs with
        | '\\', '\n' :: cs => delimiterFrom none cs
        | '\\', d :: cs => taken true [d] (delimiterFrom none cs)
        | c, cs => taken false [c] (delimiterFrom none cs)

/-- A redirection after its sign. -/
def redirection (command : Bool → Reader Statement) (descriptor : Option Nat) (sign : String) :
    Reader Redirection := do
  let number (otherwise : Nat) := descriptor.getD otherwise
  if sign = "<<" ∨ sign = "<<-" then
    modify fun s =>
      let (line, rest) := skipBlanks false s.line s.rest
      { s with line, rest }
    let s ← get
    let isOperator := s.rest.head?.all endsWord
    if isOperator then
      let t ← token command
      refuse (t.name ++ " unexpected")
    match delimiterFrom none s.rest with
    | none => refuse "Unterminated quoted string"
    | some ((delimiter, quoted), rest) =>
      let r : Requested := ⟨s.nextDocument, delimiter, quoted, sign = "<<-"⟩
      set { s with rest, nextDocument := s.nextDocument + 1, requested := s.requested ++ [r] }
      return .document (number 0) r.number
  else
    let t ← next command false false
    match t with
    | .word w =>
      match sign with
      | "<" => return .file (number 0) .read w
      | "<>" => return .file (number 0) .update w
      | "<&" => return .copy (number 0) w
      | ">&" => return .copy (number 1) w
      | ">|" => return .file (number 1) .force w
      | ">>" => return .file (number 1) .append w
      | _ => return .file (number 1) .write w
    | t => refuse (t.name ++ " unexpected")

end Reader

end CompileTree.Shell.Script
