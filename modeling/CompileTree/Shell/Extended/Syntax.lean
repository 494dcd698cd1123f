import CompileTree.Shell.Script

/-! # Scripts of the extended shell

The language of the shell with arrays, conditions in double brackets, arithmetic
commands and more expansions. Words keep how they are spelled, since commands are
shown as they were written. Lines are kept where something may go wrong that is told
with its line.
-/

namespace CompileTree.Shell.Extended

open Script (Parameter Trim Remedy)

/-- Where in a text a pattern is replaced. -/
inductive Site where
  | first
  | all
  | start
  | finish
  deriving DecidableEq, Repr

/-- How the case of letters is changed. -/
inductive Casing where
  | upper
  | lower
  | toggled
  deriving DecidableEq, Repr

/-- The descriptor that a redirection changes: a number, or one that is chosen and
    assigned to a variable. -/
inductive Handle where
  | number (n : Nat)
  | chosen (name : String)
  deriving DecidableEq, Repr

/-- How a file is opened by a redirection. -/
abbrev Access := Script.Access

/-- What happens behind the commands of a case. -/
inductive CaseEnd where
  /-- The distinction is over. -/
  | stop
  /-- The commands of the next case run too. -/
  | fall
  /-- The next cases are looked at too. -/
  | test
  deriving DecidableEq, Repr

mutual

/-- One part of a word; parts within quotation marks are neither split into fields nor
    read as patterns. -/
inductive Part where
  | text (quoted : Bool) (cs : List Char)
  /-- The home directory of a user, or a directory of the shell for a sign. -/
  | home (user : List Char)
  | value (quoted : Bool) (subject : Subject) (change : Change)
  /-- What a command writes. -/
  | output (quoted : Bool) (c : Statement)
  /-- What a command writes that is read when it is run. -/
  | late (quoted : Bool) (text : List Char)
  /-- The text of a file. -/
  | contents (quoted : Bool) (name : Word)
  /-- The value of an expression. -/
  | arithmetic (quoted : Bool) (text : List Part)
  /-- The name of a file from which what a command writes can be read, or to which it can
      be given what it reads. -/
  | channel (reads : Bool) (c : Statement)

/-- What an expansion is about: a parameter or some of its elements, or what is named
    by its value. -/
inductive Subject where
  | of (indirect : Bool) (p : Parameter) (subscript : Subscript)

/-- Which elements of an array are meant. -/
inductive Subscript where
  | none
  | all (joined : Bool)
  | index (text : List Part)

/-- What is made of the value of a parameter. -/
inductive Change where
  | plain
  | length
  /-- The names of variables that start with the name that is given. -/
  | names (joined : Bool)
  /-- The indices of an array. -/
  | keys (joined : Bool)
  /-- What is done where the value is unset or, if asked, empty. -/
  | missing (how : Remedy) (alsoEmpty : Bool) (other : List Part)
  /-- The value without what a pattern takes off. -/
  | trimmed (how : Trim) (pattern : List Part)
  /-- A part of the value, from an offset on. -/
  | slice (start : List Part) (count : Option (List Part))
  | replaced (site : Site) (pattern other : List Part)
  | cased (how : Casing) (all : Bool) (pattern : List Part)
  /-- The value in a form that a letter stands for. -/
  | shown (letter : Char)
  | malformed

/-- A word with its spelling. -/
inductive Word where
  | of (spelling : String) (parts : List Part)

/-- What is assigned. -/
inductive Given where
  | word (w : Word)
  | list (items : List Item)

/-- An element of a list that is assigned. -/
inductive Item where
  | next (w : Word)
  | under (key : List Part) (appends : Bool) (value : Word)

/-- An assignment to a variable, or to an element of an array. -/
inductive Assignment where
  | of (spelling name : String) (key : Option (List Part)) (appends : Bool) (given : Given)

/-- A word of a command, or an assignment as an argument. -/
inductive Argument where
  | word (w : Word)
  | assignment (a : Assignment)

/-- Changes where a descriptor leads. -/
inductive Redirection where
  | file (handle : Handle) (access : Access) (name : Word)
  /-- Both outputs lead to a file. -/
  | both (appends : Bool) (name : Word)
  /-- The descriptor leads where another one does, or nowhere for a hyphen. -/
  | copy (handle : Handle) (reads : Bool) (source : Word)
  /-- The descriptor reads a document of the script, known by its number. -/
  | document (handle : Handle) (number : Nat)
  /-- The descriptor reads the text of a word. -/
  | inline (handle : Handle) (text : Word)

/-- A condition. -/
inductive Condition where
  | ask (question : String) (w : Word)
  | compare (a : Word) (sign : String) (b : Word)
  | negated (c : Condition)
  | both (a b : Condition)
  | either (a b : Condition)
  | grouped (c : Condition)

/-- A command. -/
inductive Statement where
  | nothing
  | simple (line : Nat) (assignments : List Assignment) (arguments : List Argument)
      (redirections : List Redirection)
  /-- Every command reads what the one before it writes. -/
  | pipeline (commands : List Statement)
  | negated (c : Statement)
  /-- A command whose running time is told. -/
  | timed (brief : Bool) (c : Statement)
  /-- Commands on one line, or on lines of their own. -/
  | sequence (apart : Bool) (first second : Statement)
  /-- The second one runs if the first one succeeds. -/
  | both (first second : Statement)
  /-- The second one runs if the first one fails. -/
  | either (first second : Statement)
  /-- A command that is not waited for. -/
  | background (c : Statement)
  /-- A command that works beside the shell, joined to it by descriptors in an array. -/
  | partner (name : String) (c : Statement)
  | branch (condition yes : Statement) (no : Option Statement)
  /-- A loop that goes on while its condition succeeds or, if asked, fails. -/
  | loop (whileFailing : Bool) (condition body : Statement)
  /-- A loop over words, or over the arguments if none are given. -/
  | each (line : Nat) (name : String) (items : Option (List Word)) (body : Statement)
  /-- A loop that asks which of some words to take. -/
  | menu (line : Nat) (name : String) (items : Option (List Word)) (body : Statement)
  /-- A loop over expressions: before it, before each pass and behind each pass. -/
  | count (line : Nat) (start condition step : Word) (body : Statement)
  | select (line : Nat) (subject : Word) (cases : List Case)
  | group (c : Statement)
  /-- A command in a process of its own, with the line on which it is closed. -/
  | subshell (line : Nat) (c : Statement)
  | expression (line : Nat) (text : Word)
  | condition (line : Nat) (c : Condition)
  | redirected (c : Statement) (redirections : List Redirection)
  | define (line : Nat) (name : String) (body : Statement)

/-- A case of a distinction. -/
inductive Case where
  | of (patterns : List Word) (body : Statement) (ending : CaseEnd)

end

/-- Whether a command consists of words and redirections, or runs as a process of its own. -/
def Statement.isAlone : Statement → Bool
  | .simple .. | .subshell .. => true
  | .redirected c _ => c.isAlone
  | _ => false

/-- Whether a command consists of words. -/
def Statement.isBare : Statement → Bool
  | .simple _ _ _ redirections => redirections.isEmpty
  | _ => false

/-- Whether a command ends with one that consists of words. The program that they call may
    take the place of a shell that has nothing else to do. -/
def Statement.endsBare : Statement → Bool
  | .sequence _ _ second | .both _ second | .either _ second => second.isBare
  | c => c.isBare

/-- The spelling of a word. -/
def Word.spelling : Word → String
  | .of spelling _ => spelling

/-- The parts of a word. -/
def Word.parts : Word → List Part
  | .of _ parts => parts

/-- Put text before parts, joined to text of the same kind. -/
def consText (quoted : Bool) (cs : List Char) : List Part → List Part
  | .text q ds :: rest =>
    if q = quoted then .text q (cs ++ ds) :: rest else .text quoted cs :: .text q ds :: rest
  | rest => .text quoted cs :: rest

/-- The text of parts of which nothing is quoted or expanded. -/
def plainText? : List Part → Option String
  | [.text false cs] => some (String.ofList cs)
  | _ => none

/-- The word as it stands, if nothing in it is quoted or expanded. -/
def Word.plain? (w : Word) : Option String := plainText? w.parts

/-- A tilde at the start of a text as a home directory; `ended` tells whether the name of
    the user ends with the text. -/
def homeOf (ended : Bool) : List Char → List Part
  | '~' :: cs =>
    let user := cs.takeWhile (· ≠ '/')
    match cs.drop user.length with
    | [] => if ended then [.home user] else [.text false ('~' :: cs)]
    | after => [.home user, .text false after]
  | cs => [.text false cs]

/-- Parts with a tilde at the start as a home directory. -/
def withHome : List Part → List Part
  | .text false cs :: rest => homeOf rest.isEmpty cs ++ rest
  | ps => ps

/-- Parts with tildes at the start and behind colons as home directories. -/
def withHomes (atStart : Bool) : List Part → List Part
  | .text false cs :: rest =>
    let segments := (cs.splitOn ':').zipIdx
    let words := segments.map fun (ds, i) =>
      if i = 0 ∧ !atStart then [.text false ds]
      else homeOf (i + 1 < segments.length || rest.isEmpty) ds
    [Part.text false [':']].intercalate words ++ withHomes false rest
  | part :: rest => part :: withHomes false rest
  | [] => []

end CompileTree.Shell.Extended
