import CompileTree.Shell.Extended.Escapes
import CompileTree.Shell.Extended.Lines
import CompileTree.Shell.Extended.Source
import CompileTree.Shell.Script.Words

/-! # Reading words of the extended shell

A word goes on until a blank or an operator. What stands in it may be quoted, and a
dollar sign or a backward quote starts an expansion. How commands within words are
read, up to a closing parenthesis, is left open here.
-/

namespace CompileTree.Shell.Extended.Reader

open Script (Parameter Trim Remedy isNameStart isNameChar)
open Script.Reader (special? named? bareParameter? backward? endsWord)

/-- What surrounds the part of a word that is being read. -/
inductive Surrounding where
  /-- Nothing; `depth` parentheses of a pattern are open. -/
  | word (depth : Nat)
  /-- Nothing, and parentheses belong to the word. -/
  | regex (depth : Nat)
  /-- Quotation marks that open on a line. -/
  | quotes (line : Nat)
  /-- A whole text. -/
  | whole
  /-- A whole text within quotation marks. -/
  | wholeQuoted
  | document
  | expression
  deriving DecidableEq, Repr

namespace Surrounding

/-- Whether text in a surrounding counts as quoted. -/
def isQuoted : Surrounding → Bool
  | .word _ | .regex _ | .whole => false
  | _ => true

/-- Whether a backslash takes away the meaning of a character. -/
def escapes : Surrounding → Char → Bool
  | .word _, _ | .regex _, _ | .whole, _ => true
  | .quotes _, c | .expression, c => c ∈ ['\\', '\x60', '$', '"']
  | .wholeQuoted, c => c ∈ ['\\', '\x60', '$', '"', '\x7d']
  | .document, c => c ∈ ['\\', '\x60', '$']

/-- Whether an apostrophe quotes. -/
def hasApostrophes (around : Surrounding) : Bool := !around.isQuoted

/-- Whether quotation marks quote. -/
def hasMarks : Surrounding → Bool
  | .document | .quotes _ => false
  | _ => true

/-- Whether an apostrophe behind a dollar sign starts a text with escapes. -/
def hasEscaped : Surrounding → Bool
  | .word _ | .regex _ | .whole | .wholeQuoted => true
  | _ => false

end Surrounding

/-- Whether parts stand for fields of their own, which may be none. -/
def areSeparate : List Part → Bool
  | [.value _ (.of _ p subscript) change] =>
    let many := match p, subscript with
      | .each, .none => true
      | _, .all false => true
      | _, _ => false
    match change with
    | .length => false
    | .names joined | .keys joined => !joined
    | .missing .assign .. | .malformed => false
    | _ => many
  | _ => false

/-- Parts between quotation marks, with a mark that keeps the field if they are empty. Parts
    that stand for fields of their own may vanish. -/
def markQuoted (ps : List Part) : List Part :=
  if areSeparate ps then ps else .text true [] :: ps

/-- What a text in braces starts with: a parameter with a subscript, of which the text is
    given, and what follows. -/
def subject? (cs : List Char) : Option ((Parameter × Option (List Char)) × List Char) :=
  match named? cs with
  | some (.named name, '[' :: rest) =>
    (balanced? ']' rest).map fun (text, rest) => ((.named name, some text), rest)
  | some (p, rest) => some ((p, none), rest)
  | none =>
    match cs with
    | c :: rest => (special? c).map fun p => ((p, none), rest)
    | [] => none

/-- The text before a character that is not within quotes, expansions or escapes, and what
    follows it. -/
def splitAt (mark : Char) : Nat → List Char → List Char × Option (List Char)
  | 0, cs => (cs, none)
  | _, [] => ([], none)
  | fuel + 1, c :: cs =>
    if c = mark then ([], some cs)
    else
      let after (head rest : List Char) : List Char × Option (List Char) :=
        let (text, rest) := splitAt mark fuel rest
        (head ++ text, rest)
      let inner (head : List Char) (close : Char) (rest : List Char) :
          List Char × Option (List Char) :=
        match balanced? close rest with
        | some (text, rest) => after (head ++ text ++ [close]) rest
        | none => after head rest
      match c, cs with
      | '\\', d :: rest => after ['\\', d] rest
      | '\'', _ =>
        match apostrophe? cs with
        | some (text, rest) => after ('\'' :: text ++ ['\'']) rest
        | none => after [c] cs
      | '"', _ => inner ['"'] '"' cs
      | '\x60', _ => inner ['\x60'] '\x60' cs
      | '$', '\x7b' :: rest => inner ['$', '\x7b'] '\x7d' rest
      | '$', '(' :: rest => inner ['$', '('] ')' rest
      | '(', _ => if mark = ':' then inner ['('] ')' cs else after [c] cs
      | _, _ => after [c] cs

/-- The offset and the length of a slice. A colon that belongs to a choice does not divide
    them; `choices` counts those that are open. -/
def sliceTexts : Nat → Nat → List Char → List Char × Option (List Char)
  | 0, _, cs => (cs, none)
  | fuel + 1, choices, cs =>
    let (text, rest) := splitAt ':' (cs.length + 1) cs
    let choices := choices + (text.filter (· == '?')).length
    match rest, choices with
    | none, _ => (text, none)
    | some rest, 0 => (text, some rest)
    | some rest, choices + 1 =>
      let (more, rest) := sliceTexts fuel choices rest
      (text ++ ':' :: more, rest)

/-- The part of a parameter with what is done to it; the text in braces is given. How texts
    are read is left open: one that is a value, one that is a pattern and one that is an
    expression. -/
def bracedPart (quoted : Bool) (value pattern expression : List Char → Reader (List Part))
    (cs : List Char) : Reader Part := do
  let make (indirect : Bool) (p : Parameter) (s : Option (List Char)) (change : Change) :
      Reader Part := do
    let s ← match s with
      | none => pure Subscript.none
      | some ['@'] => pure (.all false)
      | some ['*'] => pure (.all true)
      | some text => pure (.index (← pattern text))
    return .value quoted (.of indirect p s) change
  let malformed : Reader Part := return .value quoted (.of false (.named (String.ofList cs)) .none) .malformed
  let changed (indirect : Bool) (cs : List Char) : Reader Part := do
    match subject? cs with
    | none => malformed
    | some ((p, s), rest) =>
      match rest with
      | [] => make indirect p s .plain
      | ':' :: '-' :: w => make indirect p s (.missing .other true (withHome (← value w)))
      | ':' :: '=' :: w => make indirect p s (.missing .assign true (withHome (← value w)))
      | ':' :: '?' :: w => make indirect p s (.missing .complain true (withHome (← value w)))
      | ':' :: '+' :: w => make indirect p s (.missing .instead true (withHome (← value w)))
      | '-' :: w => make indirect p s (.missing .other false (withHome (← value w)))
      | '=' :: w => make indirect p s (.missing .assign false (withHome (← value w)))
      | '?' :: w => make indirect p s (.missing .complain false (withHome (← value w)))
      | '+' :: w => make indirect p s (.missing .instead false (withHome (← value w)))
      | ':' :: w =>
        if w.isEmpty then malformed
        else
          let (start, count) := sliceTexts (w.length + 1) 0 w
          let count ← match count with
            | none => pure none
            | some text => some <$> expression text
          make indirect p s (.slice (← expression start) count)
      | '#' :: '#' :: w => make indirect p s (.trimmed .longestStart (withHome (← pattern w)))
      | '#' :: w => make indirect p s (.trimmed .shortestStart (withHome (← pattern w)))
      | '%' :: '%' :: w => make indirect p s (.trimmed .longestEnd (withHome (← pattern w)))
      | '%' :: w => make indirect p s (.trimmed .shortestEnd (withHome (← pattern w)))
      | '/' :: w =>
        let (site, w) := match w with
          | '/' :: w => (Site.all, w)
          | '#' :: w => (Site.start, w)
          | '%' :: w => (Site.finish, w)
          | w => (Site.first, w)
        let (text, other) := match w with
          | '/' :: rest => ([], some rest)
          | w => splitAt '/' (w.length + 1) w
        make indirect p s
          (.replaced site (withHome (← pattern text)) (withHome (← pattern (other.getD []))))
      | '^' :: '^' :: w => make indirect p s (.cased .upper true (← pattern w))
      | '^' :: w => make indirect p s (.cased .upper false (← pattern w))
      | ',' :: ',' :: w => make indirect p s (.cased .lower true (← pattern w))
      | ',' :: w => make indirect p s (.cased .lower false (← pattern w))
      | '~' :: '~' :: w => make indirect p s (.cased .toggled true (← pattern w))
      | '~' :: w => make indirect p s (.cased .toggled false (← pattern w))
      | ['@', letter] =>
        if letter ∈ ['U', 'u', 'L', 'Q', 'E', 'P', 'A', 'K', 'k', 'a'] then
          make indirect p s (.shown letter)
        else malformed
      | _ => malformed
  match cs with
  | '#' :: rest =>
    match subject? rest with
    | some ((p, s), []) => make false p s .length
    | _ => changed false cs
  | '!' :: c :: rest =>
    if isNameStart c || c.isDigit || c ∈ ['#', '?', '@', '*'] then
      match subject? (c :: rest) with
      | some ((.named name, none), ['@']) => make false (.named name) none (.names false)
      | some ((.named name, none), ['*']) => make false (.named name) none (.names true)
      | some ((.named name, some ['@']), []) => make false (.named name) none (.keys false)
      | some ((.named name, some ['*']), []) => make false (.named name) none (.keys true)
      | _ => changed true (c :: rest)
    else changed false cs
  | _ => changed false cs

/-- Whether a character starts a pattern with alternatives if a parenthesis follows. -/
def opensAlternatives (c : Char) : Bool := c ∈ ['?', '*', '+', '@', '!']

/-- The parts of a word up to the end of its surrounding; a closing mark is passed over. -/
def parts (substitution : Reader Statement) : Nat → Surrounding → Reader (List Part)
  | 0, _ => refuseFinish
  | fuel + 1, around => do
    let quoted := around.isQuoted
    let literal (text : List Char) (around : Surrounding) : Reader (List Part) := do
      return consText quoted text (← parts substitution fuel around)
    match ← peek with
    | none =>
      match around with
      | .quotes line => unclosed line "\""
      | _ => return []
    | some c =>
      let second := ((← get).rest.drop 1).head?
      match around, c with
      | .quotes _, '"' => skip; return []
      | _, '\\' =>
        skip
        match (← get).rest with
        | [] => return consText true ['\\'] []
        | d :: _ =>
          skip
          let text := if around.escapes d then [d] else ['\\', d]
          return consText true text (← parts substitution fuel around)
      | _, '\x60' =>
        let line := (← get).line
        let isMarked := match around with
          | .quotes _ => true
          | _ => false
        match backward? isMarked ((← get).rest.drop 1) with
        | none => unclosed line "\x60"
        | some (text, after) =>
          drop ((← get).rest.length - after.length)
          return .late quoted text :: (← parts substitution fuel around)
      | _, '$' =>
        let ps ← dollar around fuel
        return ps ++ (← parts substitution fuel around)
      | _, '\'' =>
        if around.hasApostrophes then
          let s ← get
          match apostrophe? (s.rest.drop 1) with
          | none => unclosed s.line "'"
          | some (text, _) =>
            drop (text.length + 2)
            return .text true [] :: consText true text (← parts substitution fuel around)
        else
          skip
          literal [c] around
      | _, '"' =>
        if around.hasMarks then
          let inner ← marked fuel
          return markQuoted inner ++ (← parts substitution fuel around)
        else
          skip
          literal [c] around
      | .word depth, c =>
        if (c = '<' ∨ c = '>') ∧ second = some '(' then
          drop 2
          let statement ← substitution
          return .channel (c = '<') statement.relined :: (← parts substitution fuel around)
        if opensAlternatives c ∧ second = some '(' ∧ (depth ≠ 0 || (← get).alternatives) then
          drop 2
          literal [c, '('] (.word (depth + 1))
        else if depth = 0 then
          if endsWord c then return []
          skip
          literal [c] around
        else
          skip
          literal [c] (.word (if c = '(' then depth + 1 else if c = ')' then depth - 1 else depth))
      | .regex depth, c =>
        if depth = 0 ∧ c ≠ '(' ∧ c ≠ '|' ∧ endsWord c then return []
        skip
        literal [c] (.regex (if c = '(' then depth + 1 else if c = ')' then depth - 1 else depth))
      | _, c =>
        skip
        literal [c] around
where
  /-- The parts between quotation marks, of which the first one comes next. -/
  marked : Nat → Reader (List Part)
    | 0 => refuseFinish
    | fuel + 1 => do
      let line := (← get).line
      skip
      parts substitution fuel (.quotes line)
  /-- What a dollar sign starts, which comes next. -/
  dollar (around : Surrounding) : Nat → Reader (List Part)
    | 0 => refuseFinish
    | fuel + 1 => do
      let quoted := around.isQuoted
      skip
      let next ← peek
      let s ← get
      let read (inner : Surrounding) (text : List Char) : Reader (List Part) :=
        within text (parts substitution fuel inner)
      let command : Reader (List Part) := do
        skip
        let c ← substitution
        return [contentsOf quoted c]
      match next with
      | some '(' =>
        match s.rest.drop 1 with
        | '(' :: after =>
          match balanced? ')' after with
          | some (text, ')' :: _) =>
            drop (text.length + 4)
            return [.arithmetic quoted (← read .expression text)]
          | some _ => command
          | none => unclosed s.line ")"
        | _ => command
      | some '[' =>
        match balanced? ']' (s.rest.drop 1) with
        | some (text, _) =>
          drop (text.length + 2)
          return [.arithmetic quoted (← read .expression text)]
        | none => unclosed s.line "]"
      | some '\x7b' =>
        match balanced? '\x7d' (s.rest.drop 1) with
        | some (text, _) =>
          drop (text.length + 2)
          let inner := if quoted then .wholeQuoted else .whole
          return [← bracedPart quoted (read inner) (read .whole) (read .expression) text]
        | none => unclosed s.line "\x7d"
      | some '\'' =>
        if around.hasEscaped then
          match escaped? (s.rest.drop 1) with
          | some (text, _) =>
            drop (text.length + 2)
            return [.text true (Escapes.ofQuoted text)]
          | none => unclosed s.line "'"
        else return [.text quoted ['$']]
      | some '"' =>
        if around.hasMarks then return [] else return [.text quoted ['$']]
      | _ =>
        match bareParameter? s.rest with
        | some (p, rest) =>
          drop (s.rest.length - rest.length)
          return [.value quoted (.of false p .none) .plain]
        | none => return [.text quoted ['$']]
  /-- What a command in a word writes, or the text of the file that is all of it. -/
  contentsOf (quoted : Bool) (c : Statement) : Part :=
    match c with
    | .simple _ [] [] [.file (.number 0) .read name] => .contents quoted name
    | c => .output quoted c.relined

/-- What stands between two places in a text, as it is spelled. -/
def spelledFrom (before : List Char) : Reader String := do
  let left := (← get).rest.length
  return String.ofList (before.take (before.length - left))

/-- Parts with the tildes of a home directory at the start, or in a text behind a name and
    an equals sign. -/
def withHomesOf : List Part → List Part
  | .text false cs :: rest =>
    let name := cs.takeWhile isNameChar
    match cs.drop name.length with
    | '=' :: value =>
      if Script.isName name then
        let behind := if value = [] then rest else .text false value :: rest
        consText false (name ++ ['=']) (withHomes true behind)
      else withHome (.text false cs :: rest)
    | _ => withHome (.text false cs :: rest)
  | ps => ps

/-- A word in a surrounding, with its spelling. -/
def wordIn (substitution : Reader Statement) (around : Surrounding) : Reader Word := do
  let start := (← get).rest
  let ps ← parts substitution (← bound) around
  return .of (← spelledFrom start) (withHomesOf ps)

/-- A word that is a whole text, read as something. -/
def wholeWord (substitution : Reader Statement) (around : Surrounding) (text : List Char) :
    Reader Word := do
  return .of (String.ofList text) (← within text (parts substitution (text.length + 2) around))

end CompileTree.Shell.Extended.Reader
