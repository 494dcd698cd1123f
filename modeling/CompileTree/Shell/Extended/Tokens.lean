import CompileTree.Shell.Extended.Words
import CompileTree.Shell.Script.Tokens

/-! # Reading tokens of the extended shell

A script is a sequence of words, assignments, operators, redirections and line ends,
with blanks and remarks in between. Documents are read where the line ends that asks
for them.
-/

namespace CompileTree.Shell.Extended

/-- The words that have a meaning of their own where a command may start. -/
def keywords : List String :=
  ["!", "[[", "case", "coproc", "do", "done", "elif", "else", "esac", "fi", "for", "function",
    "if", "in", "select", "then", "time", "until", "while", "\x7b", "\x7d"]

/-- How a token is named in complaints. -/
def Token.name : Token → String
  | .word w => w.spelling
  | .assignment (.of spelling ..) => spelling
  | .keyword text | .operator text | .redirection _ text => text
  | .expression _ => "("
  | .lineEnd => "newline"
  | .finish => "end of file"

/-- The word that a token is. -/
def Token.word? : Token → Option Word
  | .word w => some w
  | .keyword text => some (.of text [.text false text.toList])
  | _ => none

/-- Whether a token is a given operator or keyword. -/
def Token.is (t : Token) (text : String) : Bool :=
  match t with
  | .keyword k | .operator k => k == text
  | _ => false

namespace Reader

open Script (isNameStart isNameChar isName)

/-- What may stand where a token is read. -/
structure Place where
  /-- Whether words may have a meaning of their own, and expressions may start. -/
  start : Bool
  /-- Whether a word may be an assignment. -/
  assigns : Bool
  deriving DecidableEq, Repr

/-- Where a command starts. -/
def Place.command : Place := ⟨true, true⟩

/-- Where a word stands. -/
def Place.argument : Place := ⟨false, false⟩

/-- Refuse a script for a token that has no place where it stands. -/
def refuseToken {α : Type} (t : Token) : Reader α :=
  match t with
  | .finish => refuseFinish
  | t => refuseHere ["syntax error near unexpected token \x60" ++ t.name ++ "'"]

/-- Pass over blanks, line joints and, up to the end of its line, a remark. With `lineEnds`
    line ends count as blanks. -/
def blanks (lineEnds inRemark : Bool) (line : Nat) (current : List Char) :
    List Char → Nat × List Char × List Char
  | [] => (line, current, [])
  | c :: cs =>
    if c = '\n' ∧ lineEnds then blanks lineEnds false (line + 1) cs cs
    else if inRemark then
      if c = '\n' then (line, current, c :: cs) else blanks lineEnds true line current cs
    else if c = ' ' ∨ c = '\t' then blanks lineEnds false line current cs
    else if c = '#' then blanks lineEnds true line current cs
    else
      match c, cs with
      | '\\', '\n' :: cs => blanks lineEnds false (line + 1) cs cs
      | _, _ => (line, current, c :: cs)

/-- Pass over blanks. -/
def skipBlanks (lineEnds : Bool) : Reader Unit :=
  modify fun s =>
    let (line, current, rest) := blanks lineEnds false s.line s.current s.rest
    { s with line, current, rest }

/-- The longest of some signs at the start of a text. -/
def longest? (signs : List String) (cs : List Char) : Option String :=
  signs.find? fun sign => sign.toList.isPrefixOf cs

/-- The operators and the signs of redirections, each before those it starts with. -/
def signs : List String :=
  ["&>>", "&>", "&&", "&", "||", "|&", "|", ";;&", ";;", ";&", ";", "(", ")", "<<<", "<<-", "<<",
    "<&", "<>", "<", ">>", ">|", ">&", ">"]

/-- Whether a sign is that of a redirection. -/
def isRedirection (sign : String) : Bool := sign.contains '<' || sign.contains '>'

/-- The name, the key and the sign of an assignment at the start of a text, and what
    follows. -/
def assignmentStart? (cs : List Char) :
    Option ((String × Option (List Char) × Bool) × List Char) :=
  let name := cs.takeWhile isNameChar
  if !isName name then none
  else
    let (key, rest) := match cs.drop name.length with
      | '[' :: rest =>
        match balanced? ']' rest with
        | some (key, rest) => (some key, rest)
        | none => (none, [])
      | rest => (none, rest)
    match rest with
    | '=' :: rest => some ((String.ofList name, key, false), rest)
    | '+' :: '=' :: rest => some ((String.ofList name, key, true), rest)
    | _ => none

/-- The key and the sign of an element of a list, and what follows. -/
def keyStart? (cs : List Char) : Option ((List Char × Bool) × List Char) :=
  match cs with
  | '[' :: rest =>
    match balanced? ']' rest with
    | some (key, '=' :: rest) => some ((key, false), rest)
    | some (key, '+' :: '=' :: rest) => some ((key, true), rest)
    | _ => none
  | _ => none

/-- The elements of a list up to its closing parenthesis. -/
def elements (substitution : Reader Statement) (line : Nat) : Nat → Reader (List Item)
  | 0 => unclosed line ")"
  | fuel + 1 => do
    skipBlanks true
    mark
    let s ← get
    match s.rest with
    | [] => onOneLine (unclosed line ")")
    | ')' :: _ =>
      skip
      return []
    | cs =>
      match keyStart? cs with
      | some ((key, appends), rest) =>
        let key ← within key (parts substitution (key.length + 2) .whole)
        drop (cs.length - rest.length)
        let value ← wordIn substitution (.word 0)
        return .under key appends value :: (← elements substitution line fuel)
      | none =>
        let isWord := match cs with
          | '<' :: '(' :: _ | '>' :: '(' :: _ => true
          | _ => false
        match longest? signs cs with
        | some sign =>
          if !isWord then onOneLine (refuseToken (.operator sign))
        | none => pure ()
        let w ← wordIn substitution (.word 0)
        return .next w :: (← elements substitution line fuel)

/-- An assignment whose start was found; `rest` is what follows its sign. -/
def assignment (substitution : Reader Statement) (name : String) (key : Option (List Char))
    (appends : Bool) (rest : List Char) : Reader Token := do
  let start := (← get).rest
  let key ← match key with
    | none => pure none
    | some text => some <$> within text (parts substitution (text.length + 2) .whole)
  drop (start.length - rest.length)
  let line := (← get).line
  let given ← match rest with
    | '(' :: _ =>
      skip
      Given.list <$> elements substitution line (← bound)
    | _ => do
      let w ← wordIn substitution (.word 0)
      pure (.word (.of w.spelling (withHomes true w.parts)))
  return .assignment (.of (← spelledFrom start) name key appends given)

/-- Whether a text names a variable, or an element of an array. -/
def isPlaceName (cs : List Char) : Bool :=
  let name := cs.takeWhile (· ≠ '[')
  let subscript := cs.drop name.length
  isName name && (subscript.isEmpty || (2 < subscript.length && subscript.getLast? == some ']'))

/-- The descriptor that a word before the sign of a redirection stands for. -/
def handle? (w : Word) : Option Handle :=
  match w.plain? with
  | none => none
  | some text =>
    let cs := text.toList
    if !cs.isEmpty && cs.all Char.isDigit then some (.number (Script.Reader.digitsValue cs))
    else
      match cs with
      | '\x7b' :: name =>
        if name.getLast? == some '\x7d' && isPlaceName name.dropLast then
          some (.chosen (String.ofList name.dropLast))
        else none
      | _ => none

/-- The next token, or the one that was given back. -/
def token (substitution : Reader Statement) (place : Place) : Reader Token := do
  match (← get).pushed with
  | some t =>
    modify fun s => { s with pushed := none }
    return t
  | none =>
    skipBlanks false
    let _ ← peek
    mark
    let cs := (← get).rest
    match cs with
    | [] => return .finish
    | '\n' :: _ =>
      skip
      return .lineEnd
    | c :: rest =>
      if place.start then
        match c, rest with
        | '(', '(' :: after =>
          match balanced? ')' after with
          | some (text, ')' :: _) =>
            drop (text.length + 4)
            mark
            return .expression (← wholeWord substitution .expression text)
          | _ => pure ()
        | _, _ => pure ()
      let isWord := (c = '<' ∨ c = '>') ∧ rest.head? = some '('
      match if isWord then none else longest? signs cs with
      | some sign =>
        drop sign.length
        return if isRedirection sign then .redirection none sign else .operator sign
      | none =>
        match if place.assigns then assignmentStart? cs else none with
        | some ((name, key, appends), rest) =>
          let t ← assignment substitution name key appends rest
          mark
          return t
        | none =>
          let w ← wordIn substitution (.word 0)
          mark
          let after := (← get).rest
          match handle? w, longest? signs after with
          | some handle, some sign =>
            if isRedirection sign && !sign.startsWith "&" then
              drop sign.length
              return .redirection (some handle) sign
            else return .word w
          | _, _ => return .word w

/-- Give a token back. -/
def push (t : Token) : Reader Unit := modify fun s => { s with pushed := some t }

/-- The lines of a document, what follows its delimiter, and whether there is one. In a
    document that is expanded a line may be joined to the next one, which is no delimiter
    then. -/
def documentText (r : Requested) (joins : Bool) : Nat → List Char → List Char × List Char × Bool
  | 0, cs => ([], cs, false)
  | _ + 1, [] => ([], [], false)
  | fuel + 1, cs =>
    let line := cs.takeWhile (· ≠ '\n')
    let rest := cs.drop line.length
    let shown := if r.indented ∧ !joins then line.dropWhile (· == '\t') else line
    if shown = r.delimiter ∧ !joins then ([], rest.drop 1, true)
    else if rest.isEmpty then (shown ++ ['\n'], [], false)
    else
      let backslashes := (line.reverse.takeWhile (· == '\\')).length
      let (text, after, found) :=
        documentText r (!r.quoted && backslashes % 2 == 1) fuel (rest.drop 1)
      (shown ++ (rest.take 1) ++ text, after, found)

/-- Read the documents that were asked for. -/
def documents (substitution : Reader Statement) : Reader Unit := do
  let asked := (← get).requested
  modify fun s => { s with requested := [] }
  for r in asked do
    let before := (← get).rest
    let (text, rest, found) := documentText r false (before.length + 1) before
    drop (before.length - rest.length)
    let ps ←
      if r.quoted then pure [Part.text true text]
      else within text (parts substitution (text.length + 2) .document)
    modify fun s => { s with documents := s.documents ++ [(r.number, ps)] }
    if !found then
      let s ← get
      let line := if s.current.isEmpty then s.line - 1 else s.line
      let message := "warning: here-document at line " ++ toString r.line ++
        " delimited by end-of-file (wanted \x60" ++ String.ofList r.delimiter ++ "')"
      modify fun s => { s with warnings := s.warnings ++ [(line, message)] }

/-- The token behind line ends. -/
def behindLineEnds (substitution : Reader Statement) (place : Place) : Nat → Token → Reader Token
  | 0, t => return t
  | fuel + 1, t =>
    match t with
    | .lineEnd => do
      documents substitution
      behindLineEnds substitution place fuel (← token substitution place)
    | t => return t

/-- The next token where names may be replaced; `fuel` bounds how often they are. Where a
    command may start, keywords count; line ends may be passed over. -/
def nextWithin (substitution : Reader Statement) (place : Place) (passLineEnds : Bool) :
    Nat → Reader Token
  | 0 => return .finish
  | fuel + 1 => do
    let t ← token substitution place
    let t ← if passLineEnds then behindLineEnds substitution place (← bound) t else pure t
    if !place.start then return t
    match t.word?.bind Word.plain? with
    | some text =>
      if text ∈ keywords then return .keyword text
      else if ← replaceName text then nextWithin substitution place passLineEnds fuel
      else return t
    | none => return t

/-- The next token. Where a command may start, keywords count; line ends may be passed
    over. -/
def next (substitution : Reader Statement) (place : Place) (passLineEnds : Bool) :
    Reader Token := do
  nextWithin substitution place passLineEnds ((← get).aliases.length + 1)

/-- The next token as a word, which has to come next. -/
def expectWord (substitution : Reader Statement) : Reader Word := do
  let t ← next substitution .argument false
  match t with
  | .word w => return w
  | t => refuseToken t

/-- A redirection after its sign. -/
def redirection (substitution : Reader Statement) (handle : Option Handle) (sign : String) :
    Reader Redirection := do
  let handled (otherwise : Nat) := handle.getD (.number otherwise)
  if sign = "<<" ∨ sign = "<<-" then
    skipBlanks false
    mark
    let s ← get
    let isOperator := s.rest.head?.all Script.Reader.endsWord
    if isOperator then
      let t ← token substitution .argument
      refuseToken t
    match Script.Reader.delimiterFrom none s.rest with
    | none => unclosed s.line "\""
    | some ((delimiter, quoted), rest) =>
      let r : Requested := ⟨s.nextDocument, delimiter, quoted, sign = "<<-", s.line⟩
      drop (s.rest.length - rest.length)
      modify fun s => { s with
        nextDocument := s.nextDocument + 1, requested := s.requested ++ [r] }
      return .document (handled 0) r.number
  else
    let w ← expectWord substitution
    match sign with
    | "<" => return .file (handled 0) .read w
    | "<>" => return .file (handled 0) .update w
    | "<&" => return .copy (handled 0) true w
    | ">&" => return .copy (handled 1) false w
    | "<<<" => return .inline (handled 0) w
    | ">>" => return .file (handled 1) .append w
    | ">|" => return .file (handled 1) .force w
    | "&>" => return .both false w
    | "&>>" => return .both true w
    | _ => return .file (handled 1) .write w

end Reader

end CompileTree.Shell.Extended
