import CompileTree.Shell.Extended.Tokens
import CompileTree.Shell.Script.Reader

/-! # Reading commands of the extended shell

A script is read line by line: a line holds as many commands as it takes until one
line end is no part of any of them. Commands stand in each other, and in words; how
the ones within are read is handed down, one depth less at every step.
-/

namespace CompileTree.Shell.Extended

open Script (Extent isName)

/-- The commands whose arguments may be assignments. -/
def assigningCommands : List String :=
  ["alias", "declare", "eval", "export", "let", "local", "readonly", "typeset"]

/-- Whether a token closes a list of commands. -/
def Token.closes : Token → Bool
  | .finish => true
  | .keyword text => text ∈ ["\x7d", "do", "done", "elif", "else", "esac", "fi", "then"]
  | .operator text => text ∈ [")", ";;", ";&", ";;&"]
  | _ => false

/-- The questions about one word in a condition. -/
def questions : List String :=
  (['a', 'b', 'c', 'd', 'e', 'f', 'g', 'h', 'k', 'n', 'o', 'p', 'r', 's', 't', 'u', 'v', 'w',
    'x', 'z', 'G', 'L', 'N', 'O', 'R', 'S'].map fun c => String.ofList ['-', c])

/-- The signs between two words in a condition. -/
def comparisons : List String :=
  ["=", "==", "!=", "=~", "-eq", "-ne", "-lt", "-le", "-gt", "-ge", "-nt", "-ot", "-ef"]

/-- A command with its errors going where its output goes. -/
def Statement.withErrors (c : Statement) : Statement :=
  let r := Redirection.copy (.number 2) false (.of "1" [.text false ['1']])
  match c with
  | .simple line assignments arguments redirections =>
    .simple line assignments arguments (redirections ++ [r])
  | .redirected c redirections => .redirected c (redirections ++ [r])
  | c => .redirected c [r]

namespace Reader

/-- How commands within others are read. -/
structure Nested where
  /-- A command; line ends before it may be passed over. -/
  command (passLineEnds : Bool) : Reader Statement
  /-- Commands in a word, up to a closing parenthesis. -/
  substitution : Reader Statement

/-- Pass over a keyword or operator that has to come next. -/
def expect (n : Nested) (place : Place) (passLineEnds : Bool) (text : String) : Reader Unit := do
  let t ← next n.substitution place passLineEnds
  if !t.is text then refuseToken t

/-- The commands behind pipe signs, and whether the errors of the one before the first sign
    go into its pipe. -/
def piped (n : Nested) : Nat → Statement → Reader (List Statement)
  | 0, c => return [c]
  | fuel + 1, c => do
    let t ← next n.substitution .argument false
    if t.is "|" then return c :: (← piped n fuel (← n.command true))
    else if t.is "|&" then return c.withErrors :: (← piped n fuel (← n.command true))
    else
      push t
      return [c]

/-- Whether a list of commands ends before a token. -/
def endsList (t : Token) : Bool :=
  match t with
  | .lineEnd | .finish => true
  | t => t.is ";" || t.is "&" || t.closes

/-- A pipeline, which may be negated or timed. -/
def pipeline (n : Nested) : Nat → Bool → Reader Statement
  | 0, _ => refuseFinish
  | fuel + 1, passLineEnds => do
    let t ← next n.substitution .command passLineEnds
    if t.is "!" then
      let after ← next n.substitution .command false
      push after
      if endsList after then return .negated .nothing
      return .negated (← pipeline n fuel false)
    else if t.is "time" then
      let first ← next n.substitution .command false
      let brief := (first.word?.bind Word.plain?) == some "-p"
      if !brief then push first
      let after ← if brief then next n.substitution .command false else pure first
      if brief then push after
      if endsList after then return .timed brief .nothing
      return .timed brief (← pipeline n fuel false)
    else
      push t
      match ← piped n (← bound) (← n.command false) with
      | [c] => return c
      | cs => return .pipeline cs

/-- What follows a command that is tied to others by their outcome. -/
def tied (n : Nested) : Nat → Statement → Reader Statement
  | 0, c => return c
  | fuel + 1, c => do
    let t ← next n.substitution .argument false
    if t.is "&&" then tied n fuel (.both c (← pipeline n (← bound) true))
    else if t.is "||" then tied n fuel (.either c (← pipeline n (← bound) true))
    else
      push t
      return c

/-- The commands of a list behind those before them; `apart` tells whether a line has ended
    in between. -/
def items (n : Nested) (extent : Extent) :
    Nat → Bool → Option Statement → Reader Statement
  | 0, _, before => return before.getD .nothing
  | fuel + 1, apart, before => do
    let first ← next n.substitution .command false
    let lineEnded := match first with
      | .lineEnd => true
      | _ => false
    if lineEnded && extent != .line then
      documents n.substitution
      return ← items n extent fuel true before
    match first with
    | .lineEnd =>
      documents n.substitution
      return before.getD .nothing
    | .finish =>
      documents n.substitution
      push .finish
      return before.getD .nothing
    | t =>
      push t
      let mayEnd := extent == .any || (extent == .some && before.isSome)
      if mayEnd && t.closes then return before.getD .nothing
      let c ← tied n (← bound) (← pipeline n (← bound) false)
      let t ← next n.substitution .argument false
      let c := if t.is "&" then .background c else c
      let all := match before with
        | some b => .sequence apart b c
        | none => c
      match t with
      | .finish =>
        documents n.substitution
        push .finish
        return all
      | .lineEnd =>
        push .lineEnd
        items n extent fuel apart (some all)
      | t =>
        if t.is "&" || t.is ";" then items n extent fuel false (some all)
        else if extent = .line then refuseToken t
        else
          push t
          return all

/-- A list of commands. -/
def list (n : Nested) (extent : Extent) : Reader Statement := do
  items n extent (2 * (← bound)) false none

/-- A condition with what depends on it. -/
def branches (n : Nested) : Nat → Reader Statement
  | 0 => return .nothing
  | fuel + 1 => do
    let test ← list n .some
    expect n .command false "then"
    let yes ← list n .some
    let t ← next n.substitution .command false
    if t.is "elif" then return .branch test yes (some (← branches n fuel))
    else if t.is "else" then return .branch test yes (some (← list n .some))
    else
      push t
      return .branch test yes none

/-- The words that are next, and the token behind them. -/
def words (n : Nested) : Nat → Reader (List Word × Token)
  | 0 => return ([], .finish)
  | fuel + 1 => do
    match ← next n.substitution .argument false with
    | .word w =>
      let (rest, t) ← words n fuel
      return (w :: rest, t)
    | t => return ([], t)

/-- The body of a loop, between its words or in braces. -/
def body (n : Nested) : Reader Statement := do
  let t ← next n.substitution .command true
  if t.is "do" then
    let c ← list n .some
    expect n .command false "done"
    return c
  else if t.is "\x7b" then
    let c ← list n .some
    expect n .command false "\x7d"
    return c
  else refuseToken t

/-- The variable, the words and the body of a loop. -/
def loopOverWords (n : Nested) : Reader (String × Option (List Word) × Statement) := do
  let name := (← expectWord n.substitution).spelling
  let t ← next n.substitution .command true
  if t.is "in" then
    let (given, t) ← words n (← bound)
    match t with
    | .lineEnd =>
      documents n.substitution
      return (name, some given, ← body n)
    | t => if t.is ";" then return (name, some given, ← body n) else refuseToken t
  else
    if !t.is ";" then push t
    return (name, none, ← body n)

/-- The three expressions of a loop, which are given as one text. -/
def expressions (n : Nested) (text : List Char) : Reader (Word × Word × Word) := do
  let whole (cs : List Char) : Reader Word :=
    wholeWord n.substitution .expression (cs.dropWhile Char.isWhitespace)
  let wrong (message : String) : Reader (Word × Word × Word) := do
    let shown := "syntax error: \x60((" ++ String.ofList text ++ "))'"
    throw ⟨(← get).line, ["syntax error: " ++ message, shown], none, false⟩
  let split (cs : List Char) : List Char × Option (List Char) := splitAt ';' (text.length + 1) cs
  let (start, rest) := split text
  let (test, rest') := split (rest.getD [])
  match rest, rest' with
  | some _, some step =>
    if (split step).2.isSome then wrong "\x60;' unexpected"
    else return (← whole start, ← whole test, ← whole step)
  | _, _ => wrong "arithmetic expression required"

/-- A loop over words or expressions, behind its first word. -/
def forLoop (n : Nested) : Reader Statement := do
  let line := (← get).line
  skipBlanks false
  match (← get).rest with
  | '(' :: '(' :: after =>
    match balanced? ')' after with
    | some (text, ')' :: _) =>
      drop (text.length + 4)
      let (start, test, step) ← expressions n text
      let t ← next n.substitution .command false
      if !t.is ";" then push t
      return .count line start test step (← body n)
    | some _ =>
      drop 1
      refuseToken (.operator "(")
    | none => unclosed line ")"
  | _ =>
    let (name, given, c) ← loopOverWords n
    return .each line name given c

/-- The patterns of a case, up to the closing parenthesis. -/
def patterns (n : Nested) : Nat → Token → Reader (List Word)
  | 0, _ => return []
  | fuel + 1, t => do
    match t.word? with
    | none => refuseToken t
    | some pattern =>
      let t ← next n.substitution .argument false
      if t.is "|" then
        return pattern :: (← patterns n fuel (← next n.substitution .argument false))
      else if t.is ")" then return [pattern]
      else refuseToken t

/-- The cases of a distinction, up to its end. -/
def cases (n : Nested) : Nat → Reader (List Case)
  | 0 => return []
  | fuel + 1 => do
    let t ← next n.substitution ⟨true, false⟩ true
    if t.is "esac" then return []
    let t ← if t.is "(" then next n.substitution .argument false else pure t
    let ps ← patterns n (← bound) t
    let c ← list n .any
    let t ← next n.substitution .command true
    if t.is "esac" then return [.of ps c .stop]
    else if t.is ";;" then return .of ps c .stop :: (← cases n fuel)
    else if t.is ";&" then return .of ps c .fall :: (← cases n fuel)
    else if t.is ";;&" then return .of ps c .test :: (← cases n fuel)
    else refuseToken t

/-- A distinction of cases, behind its first word. -/
def distinction (n : Nested) : Reader Statement := do
  let line := (← get).line
  let subject ← expectWord n.substitution
  expect n .command true "in"
  return .select line subject (← cases n (← bound))

/-- Refuse a condition for the token at which it goes wrong. -/
def refuseCondition {α : Type} (t : Token) (messages : List String) : Reader α := do
  match t with
  | .finish => refuseAt (← get).place.1 "unexpected EOF while looking for \x60]]'"
  | _ => refuseHere (messages ++ ["syntax error near \x60" ++ (← near) ++ "'"])

/-- The word behind a question or a sign of a condition. -/
def operand (kind : String) (t : Token) : Reader Word := do
  match t with
  | .word w =>
    if w.plain? = some "]]" then bad t else return w
  | t => bad t
where
  bad (t : Token) : Reader Word :=
    refuseCondition t
      ["unexpected argument \x60" ++ t.name ++ "' to conditional " ++ kind ++ " operator"]

/-- The word on the right of a sign of a condition. -/
def rightSide (n : Nested) (sign : String) : Reader Word := do
  if sign = "=~" then
    skipBlanks false
    let w ← wordIn n.substitution (.regex 0)
    mark
    if w.parts.isEmpty then operand "binary" (← next n.substitution .argument false) else return w
  else
    let before := (← get).alternatives
    modify fun s => { s with alternatives := true }
    let t ← next n.substitution .argument false
    modify fun s => { s with alternatives := before }
    operand "binary" t

/-- A part of a condition without conjunctions; `whole` reads what stands in parentheses. -/
def term (n : Nested) (whole : Reader Condition) : Nat → Reader Condition
  | 0 => refuseFinish
  | fuel + 1 => do
    let t ← next n.substitution .argument true
    if t.is "(" then
      let c ← whole
      let t ← next n.substitution .argument true
      if t.is ")" then return .grouped c
      else refuseCondition t ["expected \x60)'"]
    match t with
    | .word w =>
      match w.plain? with
      | some "!" => return .negated (← term n whole fuel)
      | some "]]" =>
        refuseCondition t ["syntax error in conditional expression: unexpected token \x60]]'"]
      | text =>
        match text.filter (· ∈ questions) with
        | some question =>
          return .ask question (← operand "unary" (← next n.substitution .argument false))
        | none =>
          let after ← next n.substitution .argument false
          match after with
          | .word sign =>
            match sign.plain? with
            | some "]]" =>
              push after
              return .ask "-n" w
            | some sign =>
              if sign ∈ comparisons then return .compare w sign (← rightSide n sign)
              else refuseCondition after ["conditional binary operator expected"]
            | none => refuseCondition after ["conditional binary operator expected"]
          | .redirection none "<" => return .compare w "<" (← rightSide n "<")
          | .redirection none ">" => return .compare w ">" (← rightSide n ">")
          | .lineEnd =>
            push .lineEnd
            return .ask "-n" w
          | t =>
            if t.is "&&" || t.is "||" || t.is ")" then
              push t
              return .ask "-n" w
            else
              refuseCondition t
                ["unexpected token \x60" ++ t.name ++ "', conditional binary operator expected"]
    | t =>
      refuseCondition t
        ["unexpected token \x60" ++ t.name ++ "' in conditional command"]

/-- Conjunctions, or disjunctions of what `part` reads. -/
def conditionChain (n : Nested) (part : Reader Condition) (sign : String)
    (join : Condition → Condition → Condition) : Nat → Reader Condition
  | 0 => part
  | fuel + 1 => do
    let c ← part
    let t ← next n.substitution .argument true
    if t.is sign then return join c (← conditionChain n part sign join fuel)
    else
      push t
      return c

/-- A condition; `fuel` bounds how deep parentheses stand in each other. -/
def wholeCondition (n : Nested) : Nat → Reader Condition
  | 0 => refuseFinish
  | fuel + 1 => do
    let bound ← bound
    let and_ := conditionChain n (term n (wholeCondition n fuel) bound) "&&" .both bound
    conditionChain n and_ "||" .either bound

/-- A condition up to its closing brackets. -/
def condition (n : Nested) : Reader Statement := do
  let line := (← get).line
  let c ← wholeCondition n (← bound)
  let t ← next n.substitution .argument true
  match t.word?.bind Word.plain? with
  | some "]]" => return .condition line c
  | _ =>
    refuseCondition t
      ["syntax error in conditional expression: unexpected token \x60" ++ t.name ++ "'"]

/-- The redirections behind a command. -/
def redirections (n : Nested) : Nat → Reader (List Redirection)
  | 0 => return []
  | fuel + 1 => do
    match ← next n.substitution .command false with
    | .redirection handle sign =>
      let r ← redirection n.substitution handle sign
      return r :: (← redirections n fuel)
    | t =>
      push t
      return []

/-- A compound command with the redirections behind it. -/
def redirectedBehind (n : Nested) (c : Statement) : Reader Statement := do
  match ← redirections n (← bound) with
  | [] => return c
  | rs => return .redirected c rs

/-- A compound command that starts with a token, if one does. -/
def compound? (n : Nested) (t : Token) : Reader (Option Statement) := do
  let done (c : Statement) : Reader (Option Statement) := some <$> redirectedBehind n c
  match t with
  | .expression text =>
    done (.expression (← get).line text)
  | t =>
    if t.is "if" then
      let c ← branches n (← bound)
      expect n .command false "fi"
      done c
    else if t.is "while" || t.is "until" then
      let test ← list n .some
      expect n .command false "do"
      let body ← list n .some
      expect n .command false "done"
      done (.loop (t.is "until") test body)
    else if t.is "for" then done (← forLoop n)
    else if t.is "select" then
      let line := (← get).line
      let (name, given, c) ← loopOverWords n
      done (.menu line name given c)
    else if t.is "case" then done (← distinction n)
    else if t.is "[[" then done (← condition n)
    else if t.is "(" then
      let c ← list n .some
      expect n .command false ")"
      done (.subshell (← get).line c)
    else if t.is "\x7b" then
      let c ← list n .some
      expect n .command false "\x7d"
      done (.group c)
    else return none

/-- A function whose name was read, from its body on. -/
def functionNamed (n : Nested) (line : Nat) (name : Word) : Reader Statement := do
  let t ← next n.substitution .command true
  match ← compound? n t with
  | some c => return .define line name.spelling c
  | none => refuseToken t

/-- The words and redirections of a simple command behind those before them; `assigns` tells
    whether its arguments may be assignments. -/
def simple (n : Nested) (assigns : Bool) : Nat → Nat → List Assignment → List Argument →
    List Redirection → Reader Statement
  | 0, line, assignments, arguments, rs => return .simple line assignments arguments rs
  | fuel + 1, line, assignments, arguments, rs => do
    let t ← next n.substitution ⟨false, assigns || arguments.isEmpty⟩ false
    match t with
    | .word w =>
      match arguments with
      | [] =>
        let declares := (w.plain?).any (· ∈ assigningCommands)
        let after ← next n.substitution ⟨false, declares⟩ false
        let here := (← get).place.1
        let line := if assignments.isEmpty && rs.isEmpty then here else line
        let alone := assignments.isEmpty && rs.isEmpty
        if after.is "(" && alone then
          expect n .argument false ")"
          functionNamed n line w
        else
          push after
          simple n declares fuel line assignments [.word w] rs
      | arguments => simple n assigns fuel line assignments (arguments ++ [.word w]) rs
    | .assignment a =>
      let here := (← get).place.1
      let line := if assignments.isEmpty && arguments.isEmpty && rs.isEmpty then here else line
      match arguments with
      | [] => simple n assigns fuel line (assignments ++ [a]) [] rs
      | arguments => simple n assigns fuel line assignments (arguments ++ [.assignment a]) rs
    | .redirection handle sign =>
      let r ← redirection n.substitution handle sign
      let here := (← get).place.1
      let line := if assignments.isEmpty && arguments.isEmpty && rs.isEmpty then here else line
      simple n assigns fuel line assignments arguments (rs ++ [r])
    | t =>
      push t
      return .simple line assignments arguments rs

/-- A command that works beside the shell, from what follows the word for that on: a name may
    stand before a compound command. -/
def beside (n : Nested) : Reader Statement := do
  let line := (← get).line
  let usual := "COPROC"
  let t ← next n.substitution .command false
  match t with
  | .word w =>
    let after ← next n.substitution .command false
    match ← compound? n after with
    | some c => return .partner w.spelling c
    | none =>
      push after
      return .partner usual (← simple n false (← bound) line [] [.word w] [])
  | .assignment _ | .redirection .. =>
    push t
    return .partner usual (← simple n false (← bound) line [] [] [])
  | t =>
    match ← compound? n t with
    | some c => return .partner usual c
    | none => refuseToken t

/-- A command. -/
def command (n : Nested) (passLineEnds : Bool) : Reader Statement := do
  let t ← next n.substitution .command passLineEnds
  match t with
  | .word _ | .assignment _ | .redirection .. =>
    push t
    simple n false (← bound) (← get).line [] [] []
  | t =>
    if t.is "function" then
      let line := (← get).line
      let name ← expectWord n.substitution
      let after ← next n.substitution .command false
      if after.is "(" then expect n .argument false ")" else push after
      functionNamed n line name
    else if t.is "coproc" then beside n
    else
      match ← compound? n t with
      | some c => return c
      | none => refuseToken t

/-- Commands within a word, up to a closing parenthesis. -/
def substitution (n : Nested) : Reader Statement := do
  let s ← get
  set { s with pushed := none, requested := [] }
  let c ← list n .any
  let t ← next n.substitution .command true
  match t with
  | .finish => unclosed (← finishLine) ")"
  | t => if !t.is ")" then refuseToken t
  modify fun inner => { inner with pushed := s.pushed, requested := s.requested }
  return c

/-- How commands within others are read that stand in each other to a given depth. -/
def nested : Nat → Nested
  | 0 => ⟨fun _ => refuseFinish, refuseFinish⟩
  | depth + 1 =>
    let n := nested depth
    ⟨command n, substitution n⟩

/-- The commands of the next line, or nothing at the end of the script. -/
def line : Reader (Option Statement) := do
  modify fun s => { s with pushed := none, requested := [] }
  let n := nested (← bound)
  match ← list n .line, (← get).pushed with
  | .nothing, some .finish => return none
  | c, _ => return some c

/-- Parts of a word that make up a whole text. -/
def wholeText (around : Surrounding) : Reader (List Part) := do
  let n := nested (← bound)
  parts n.substitution (← bound) around

/-- The elements of a list that a text spells, up to a closing parenthesis. -/
def listText : Reader (List Item) := do
  let n := nested (← bound)
  elements n.substitution 1 (← bound)

end Reader

end CompileTree.Shell.Extended
