import CompileTree.Shell.Script.Tokens

/-! # Reading commands

A script is read line by line: a line holds as many commands as it takes until one
line end is no part of any of them. Commands stand in each other, and in words; how
the ones within are read is handed down, one depth less at every step.
-/

namespace CompileTree.Shell.Script

/-- The commands that are part of the language; no function may have their names. -/
def specialCommands : List String :=
  [".", ":", "break", "continue", "eval", "exec", "exit", "export", "local", "readonly", "return",
    "set", "shift", "times", "trap", "unset"]

/-- Where a list of commands ends. -/
inductive Extent where
  /-- At the end of a line. -/
  | line
  /-- At a closing word or operator, behind at least one command. -/
  | some
  /-- At a closing word or operator. -/
  | any
  deriving DecidableEq, Repr

/-- Whether a token closes a list of commands. -/
def Token.closes : Token → Bool
  | .finish => true
  | .keyword text => text ∈ ["\x7d", "do", "done", "elif", "else", "esac", "fi", "then"]
  | .operator text => text ∈ [")", ";;"]
  | _ => false

namespace Reader

/-- How commands within others are read. -/
structure Nested where
  /-- A command; line ends before it may be passed over. -/
  command (passLineEnds : Bool) : Reader Statement
  /-- Commands in a word, up to a closing parenthesis or the end of the text. -/
  substitution (closing : Bool) : Reader Statement

/-- Refuse a script for a token that has no place where it stands. -/
def refuseToken {α : Type} (t : Token) (expected : Option String) : Reader α :=
  match expected with
  | some e => refuse (t.name ++ " unexpected (expecting " ++ e ++ ")")
  | none => refuse (t.name ++ " unexpected")

/-- Pass over a keyword or operator that has to come next. -/
def expect (n : Nested) (keywordsCount passLineEnds : Bool) (text : String) : Reader Unit := do
  let t ← next n.substitution keywordsCount passLineEnds
  if !t.is text then refuseToken t (some ("\"" ++ text ++ "\""))

/-- The commands behind pipe signs. -/
def piped (n : Nested) : Nat → Reader (List Statement)
  | 0 => return []
  | fuel + 1 => do
    let t ← next n.substitution false false
    if t.is "|" then
      let c ← n.command true
      return c :: (← piped n fuel)
    else
      push t
      return []

/-- A pipeline, which may be negated. -/
def pipeline (n : Nested) (passLineEnds : Bool) : Reader Statement := do
  let t ← next n.substitution true passLineEnds
  let negated := t.is "!"
  if !negated then push t
  let first ← n.command false
  let c := match ← piped n (← bound) with
    | [] => first
    | rest => .pipeline (first :: rest)
  return if negated then .negated c else c

/-- What follows a command that is tied to others by their outcome. -/
def tied (n : Nested) : Nat → Statement → Reader Statement
  | 0, c => return c
  | fuel + 1, c => do
    let t ← next n.substitution false false
    if t.is "&&" then tied n fuel (.both c (← pipeline n true))
    else if t.is "||" then tied n fuel (.either c (← pipeline n true))
    else
      push t
      return c

/-- The commands of a list behind those before them. -/
def items (n : Nested) (extent : Extent) : Nat → Option Statement → Reader Statement
  | 0, before => return before.getD .nothing
  | fuel + 1, before => do
    match ← next n.substitution true (extent != .line) with
    | .lineEnd =>
      documents n.substitution
      return before.getD .nothing
    | .finish =>
      documents n.substitution
      push .finish
      return before.getD .nothing
    | t =>
      push t
      let mayEnd := extent == .any || (extent == .some && before.isSome)
      if mayEnd && t.closes then return before.getD .nothing
      let line := (← get).line
      let c ← tied n (← bound) (← pipeline n false)
      let t ← next n.substitution false false
      let c := if t.is "&" then .background line c else c
      let all := match before with
        | some b => .sequence b c
        | none => c
      match t with
      | .finish =>
        documents n.substitution
        push .finish
        return all
      | .lineEnd =>
        push .lineEnd
        items n extent fuel (some all)
      | t =>
        if t.is "&" || t.is ";" then items n extent fuel (some all)
        else if extent = .line then refuseToken t none
        else
          push t
          return all

/-- A list of commands. -/
def list (n : Nested) (extent : Extent) : Reader Statement := do
  items n extent (2 * (← bound)) none

/-- A condition with what depends on it. -/
def branches (n : Nested) : Nat → Reader Statement
  | 0 => return .nothing
  | fuel + 1 => do
    let condition ← list n .some
    expect n false false "then"
    let yes ← list n .some
    let t ← next n.substitution false false
    if t.is "elif" then return .branch condition yes (← branches n fuel)
    else if t.is "else" then return .branch condition yes (← list n .some)
    else
      push t
      return .branch condition yes .nothing

/-- The words that are next, and the token behind them. -/
def words (n : Nested) : Nat → Reader (List Word × Token)
  | 0 => return ([], .finish)
  | fuel + 1 => do
    match ← next n.substitution false false with
    | .word w =>
      let (rest, t) ← words n fuel
      return (w :: rest, t)
    | t => return ([], t)

/-- A loop over words, from its variable on. -/
def loopOverWords (n : Nested) (line : Nat) : Reader Statement := do
  let name := match ← next n.substitution false false with
    | .word w => w.plain?.filter fun name => isName name.toList
    | _ => none
  match name with
  | none => refuse "Bad for loop variable"
  | some name =>
    let t ← next n.substitution true true
    let given ←
      if t.is "in" then
        let (given, t) ← words n (← bound)
        match t with
        | .lineEnd => pure (some given)
        | t => if t.is ";" then pure (some given) else refuseToken t none
      else
        if !t.is ";" then push t
        pure none
    expect n true true "do"
    let body ← list n .some
    expect n false false "done"
    return .each line name given body

/-- The patterns of a case, up to the closing parenthesis. -/
def patterns (n : Nested) : Nat → Token → Reader (List Word)
  | 0, _ => return []
  | fuel + 1, t => do
    let pattern := t.word?.getD []
    let t ← next n.substitution false false
    if t.is "|" then
      return pattern :: (← patterns n fuel (← next n.substitution false false))
    else if t.is ")" then return [pattern]
    else refuseToken t (some "\")\"")

/-- The cases of a distinction, up to its end. -/
def cases (n : Nested) : Nat → Reader (List (List Word × Statement))
  | 0 => return []
  | fuel + 1 => do
    let t ← nextKeyword n.substitution
    if t.is "esac" then return []
    let t ← if t.is "(" then next n.substitution false false else pure t
    let ps ← patterns n (← bound) t
    let body ← list n .any
    let t ← nextKeyword n.substitution
    if t.is "esac" then return [(ps, body)]
    else if t.is ";;" then return (ps, body) :: (← cases n fuel)
    else refuseToken t (some "\";;\"")

/-- A distinction of cases, from its subject on. -/
def distinction (n : Nested) (line : Nat) : Reader Statement := do
  match ← next n.substitution false false with
  | .word subject =>
    expect n true true "in"
    return .select line subject (← cases n (← bound))
  | t => refuseToken t (some "word")

/-- The redirections behind a command. -/
def redirections (n : Nested) : Nat → Reader (List Redirection)
  | 0 => return []
  | fuel + 1 => do
    match ← next n.substitution true false with
    | .redirection descriptor sign =>
      let r ← redirection n.substitution descriptor sign
      return r :: (← redirections n fuel)
    | t =>
      push t
      return []

/-- A compound command with the redirections behind it. -/
def redirectedBehind (n : Nested) (line : Nat) (c : Statement) : Reader Statement := do
  match ← redirections n (← bound) with
  | [] => return c
  | rs =>
    match c with
    | .subshell line c _ => return .subshell line c rs
    | c => return .redirected line c rs

/-- A function whose name was read, from the opening parenthesis on. -/
def functionNamed (n : Nested) (line : Nat) (name : Word) : Reader Statement := do
  expect n false false ")"
  match name.plain? with
  | some text =>
    if isName text.toList ∧ text ∉ specialCommands then
      return .define line text (← n.command true)
    else refuse "Bad function name"
  | none => refuse "Bad function name"

/-- The words and redirections of a simple command behind those before them. -/
def simple (n : Nested) (line : Nat) :
    Nat → List (String × Word) → List Word → List Redirection → Reader Statement
  | 0, assignments, ws, rs => return .simple line assignments ws rs
  | fuel + 1, assignments, ws, rs => do
    let t ← if ws.isEmpty then nextName n.substitution else next n.substitution false false
    match t with
    | .word w =>
      match ws, w.assignment? with
      | [], some a => simple n line fuel (assignments ++ [a]) ws rs
      | ws, _ => simple n line fuel assignments (ws ++ [w]) rs
    | .redirection descriptor sign =>
      let r ← redirection n.substitution descriptor sign
      simple n line fuel assignments ws (rs ++ [r])
    | t =>
      match t.is "(", assignments, ws, rs with
      | true, [], [name], [] => functionNamed n line name
      | _, _, _, _ =>
        push t
        return .simple line assignments ws rs

/-- A command. -/
def command (n : Nested) (passLineEnds : Bool) : Reader Statement := do
  let line := (← get).line
  let t ← next n.substitution true passLineEnds
  match t with
  | .word _ | .redirection .. =>
    push t
    simple n (← get).line (← bound) [] [] []
  | t =>
    if t.is "if" then
      let c ← branches n (← bound)
      expect n false false "fi"
      redirectedBehind n line c
    else if t.is "while" || t.is "until" then
      let condition ← list n .some
      expect n false false "do"
      let body ← list n .some
      expect n false false "done"
      redirectedBehind n line (.loop (t.is "until") condition body)
    else if t.is "for" then redirectedBehind n line (← loopOverWords n line)
    else if t.is "case" then redirectedBehind n line (← distinction n line)
    else if t.is "(" then
      let c ← list n .some
      expect n false false ")"
      redirectedBehind n line (.subshell line c [])
    else if t.is "\x7b" then
      let c ← list n .some
      expect n false false "\x7d"
      redirectedBehind n line c
    else refuseToken t none

/-- Commands within a word. -/
def substitution (n : Nested) (closing : Bool) : Reader Statement := do
  let c ← list n .any
  if closing then expect n false false ")"
  return c

/-- How commands within others are read that stand in each other to a given depth. -/
def nested : Nat → Nested
  | 0 => ⟨fun _ => refuse "Too deep", fun _ => refuse "Too deep"⟩
  | depth + 1 =>
    let n := nested depth
    ⟨command n, substitution n⟩

/-- A number that bounds how deep commands may stand in each other. -/
def depth : Reader Nat := do
  let s ← get
  return (s.aliases.map (·.2.length)).foldl (· + ·) (s.rest.length + 2)

/-- The commands of the next line, or nothing at the end of the script. -/
def line : Reader (Option Statement) := do
  modify fun s => { s with pushed := none, requested := [] }
  let n := nested (← depth)
  match ← list n .line, (← get).pushed with
  | .nothing, some .finish => return none
  | c, _ => return some c

/-- Parts of a word that make up a whole text. -/
def wholeText : Reader Word := do
  let n := nested (← depth)
  parts n.substitution (← bound) .document

end Reader

end CompileTree.Shell.Script
