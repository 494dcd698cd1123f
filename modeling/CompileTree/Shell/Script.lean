/-! # Shell scripts

The commands of the shell language: simple commands with assignments and
redirections, pipelines, lists, conditions, loops, case distinctions and
functions. Words are made of parts, which are texts and expansions. Lines are
kept where something may go wrong that is told with its line.
-/

namespace CompileTree.Shell.Script

/-- What a dollar sign may refer to. -/
inductive Parameter where
  | position (n : Nat)
  /-- The number of arguments. -/
  | count
  /-- Every argument as a word of its own. -/
  | each
  /-- All arguments in one word. -/
  | joined
  /-- How the last command ended. -/
  | status
  /-- The number of the process. -/
  | process
  /-- The letters of the options that are on. -/
  | options
  /-- The number of the last command in the background. -/
  | lastJob
  | named (name : String)
  deriving DecidableEq, Repr

/-- Which part of a value a pattern takes off. -/
inductive Trim where
  | shortestStart
  | longestStart
  | shortestEnd
  | longestEnd
  deriving DecidableEq, Repr

/-- What is done about a value that is missing. -/
inductive Remedy where
  /-- Another value is used. -/
  | other
  /-- Another value is used and assigned. -/
  | assign
  /-- It is a failure. -/
  | complain
  /-- Nothing; another value is used if the value is there. -/
  | instead
  deriving DecidableEq, Repr

/-- What a redirection does with a file. -/
inductive Access where
  | read
  | write
  /-- Writes even where existing files are to be spared. -/
  | force
  | append
  | update
  deriving DecidableEq, Repr

mutual

/-- One part of a word; parts within quotation marks are neither split into
    fields nor read as patterns. -/
inductive Part where
  | text (quoted : Bool) (cs : List Char)
  /-- The home directory of a user; no name stands for whoever runs the script. -/
  | home (user : List Char)
  | value (quoted : Bool) (p : Parameter) (m : Modifier)
  /-- What a command writes. -/
  | output (quoted : Bool) (c : Statement)
  /-- The value of an expression. -/
  | arithmetic (quoted : Bool) (e : List Part)

/-- What is made of the value of a parameter. -/
inductive Modifier where
  | plain
  | length
  /-- What is done where the value is unset or, if asked, empty. -/
  | missing (how : Remedy) (alsoEmpty : Bool) (other : List Part)
  /-- The value without what a pattern takes off. -/
  | trimmed (how : Trim) (pattern : List Part)
  | malformed

/-- Changes where a descriptor leads. -/
inductive Redirection where
  | file (descriptor : Nat) (access : Access) (name : List Part)
  /-- The descriptor leads where another one does, or nowhere for a hyphen. -/
  | copy (descriptor : Nat) (source : List Part)
  /-- The descriptor reads a document of the script, known by its number. -/
  | document (descriptor number : Nat)

/-- A command. -/
inductive Statement where
  | nothing
  | simple (line : Nat) (assignments : List (String × List Part)) (words : List (List Part))
      (redirections : List Redirection)
  /-- Every command reads what the one before it writes. -/
  | pipeline (commands : List Statement)
  | sequence (first second : Statement)
  /-- The second one runs if the first one succeeds. -/
  | both (first second : Statement)
  /-- The second one runs if the first one fails. -/
  | either (first second : Statement)
  | negated (c : Statement)
  | branch (condition yes no : Statement)
  /-- A loop that goes on while its condition succeeds or, if asked, fails. -/
  | loop (whileFailing : Bool) (condition body : Statement)
  /-- A loop over words, or over the arguments if none are given. -/
  | each (line : Nat) (name : String) (items : Option (List (List Part))) (body : Statement)
  | select (line : Nat) (subject : List Part) (cases : List (List (List Part) × Statement))
  /-- A command in a process of its own. -/
  | subshell (line : Nat) (c : Statement) (redirections : List Redirection)
  /-- A command that is not waited for. -/
  | background (line : Nat) (c : Statement)
  | redirected (line : Nat) (c : Statement) (redirections : List Redirection)
  | define (line : Nat) (name : String) (body : Statement)

end

/-- A word of a script. -/
abbrev Word := List Part

/-- Put text before a word, joined to text of the same kind. -/
def Word.cons (quoted : Bool) (cs : List Char) : Word → Word
  | .text q ds :: rest =>
    if q = quoted then .text q (cs ++ ds) :: rest else .text quoted cs :: .text q ds :: rest
  | rest => .text quoted cs :: rest

/-- The word as it stands, if nothing in it is quoted or expanded. -/
def Word.plain? : Word → Option String
  | [.text false cs] => some (String.ofList cs)
  | _ => none

/-- The characters that may start a name. -/
def isNameStart (c : Char) : Bool := c.isAlpha || c == '_'

/-- The characters of a name. -/
def isNameChar (c : Char) : Bool := c.isAlphanum || c == '_'

/-- Whether a text is a name. -/
def isName (cs : List Char) : Bool :=
  match cs with
  | [] => false
  | c :: cs => isNameStart c && cs.all isNameChar

/-- A tilde at the start of a text as a home directory; `ended` tells whether the
    name of the user ends with the text. -/
def homeOf (ended : Bool) : List Char → Word
  | '~' :: cs =>
    let user := cs.takeWhile (· ≠ '/')
    match cs.drop user.length with
    | [] => if ended then [.home user] else [.text false ('~' :: cs)]
    | after => [.home user, .text false after]
  | cs => [.text false cs]

/-- A word with a tilde at its start as a home directory. -/
def Word.withHome : Word → Word
  | .text false cs :: rest => homeOf rest.isEmpty cs ++ rest
  | w => w

/-- The value of an assignment with tildes at its start and behind colons as home
    directories. -/
def Word.withHomes (atStart : Bool) : Word → Word
  | .text false cs :: rest =>
    let segments := (cs.splitOn ':').zipIdx
    let words := segments.map fun (ds, i) =>
      if i = 0 ∧ !atStart then [.text false ds]
      else homeOf (i + 1 < segments.length || rest.isEmpty) ds
    [Part.text false [':']].intercalate words ++ Word.withHomes false rest
  | part :: rest => part :: Word.withHomes false rest
  | [] => []

/-- An assignment of a word to a variable. -/
def Word.assignment? : Word → Option (String × Word)
  | .text false cs :: rest =>
    let name := cs.takeWhile isNameChar
    match cs.dropWhile isNameChar with
    | '=' :: value =>
      if isName name then
        some (String.ofList name,
          Word.withHomes true (if value = [] then rest else .text false value :: rest))
      else none
    | _ => none
  | _ => none

end CompileTree.Shell.Script
