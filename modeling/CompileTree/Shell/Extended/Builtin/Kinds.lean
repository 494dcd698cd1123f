import CompileTree.Shell.Builtin.Variables
import CompileTree.Shell.Extended.Builtin.Arguments
import CompileTree.Shell.Extended.Calling

/-! # Commands that tell of commands

What names mean as commands, where programs were found, which names stand for others, and
from where functions were called.
-/

namespace CompileTree.Shell.Extended.Builtin

open Files Step

/-- The names of all commands that the shell carries out itself. -/
def commandNames : List String := [
  ".", ":", "[", "alias", "bg", "bind", "break", "builtin", "caller", "cd", "command", "compgen",
  "complete", "compopt", "continue", "declare", "dirs", "disown", "echo", "enable", "eval",
  "exec", "exit", "export", "false", "fc", "fg", "getopts", "hash", "help", "history", "jobs",
  "kill", "let", "local", "logout", "mapfile", "popd", "printf", "pushd", "pwd", "read",
  "readarray", "readonly", "return", "set", "shift", "shopt", "source", "suspend", "test",
  "times", "trap", "true", "type", "typeset", "ulimit", "umask", "unalias", "unset", "wait"]

/-- What a name may mean as a command. -/
inductive Meaning where
  | alias (text : String)
  | keyword
  | function (f : Function)
  | builtin
  /-- A program at a path; it may have been found there before. -/
  | file (path : String) (known : Bool)

namespace Meaning

/-- The word for a kind of command. -/
def word : Meaning → String
  | .alias _ => "alias"
  | .keyword => "keyword"
  | .function _ => "function"
  | .builtin => "builtin"
  | .file .. => "file"

/-- What is told of a name. -/
def text (name : String) : Meaning → String
  | .alias text => name ++ " is aliased to \x60" ++ text ++ "'\n"
  | .keyword => name ++ " is a shell keyword\n"
  | .function f => name ++ " is a function\n" ++ Printing.function f.name f.body ++ "\n"
  | .builtin => name ++ " is a shell builtin\n"
  | .file path known =>
    if known then name ++ " is hashed (" ++ path ++ ")\n" else name ++ " is " ++ path ++ "\n"

/-- How a command is called that a name means. -/
def call (name : String) : Meaning → String
  | .alias text => "alias " ++ name ++ "=" ++ Quoting.apostrophes text ++ "\n"
  | .file path _ => path ++ "\n"
  | _ => name ++ "\n"

/-- The path of a program. -/
def path? : Meaning → Option String
  | .file path _ => some path
  | _ => none

end Meaning

/-- The files that a name may mean on a search path. -/
def filesNamed (searchPath name : String) : Step (List Meaning) := do
  let s ← get
  let t := (← getThe System).files
  let paths := if '/' ∈ name.toList then [name] else Calling.candidates searchPath name
  return (paths.filter (Calling.mayRun t s.process)).map (Meaning.file · false)

/-- All that a name may mean, in the order in which it is looked for. -/
def meanings (searchPath : String) (functions : Bool) (name : String) : Step (List Meaning) := do
  let s ← get
  let aliases := if s.hasExtra "expand_aliases" then (s.aliases.lookup name).toList else []
  let keyword := if name ∈ keywords then [Meaning.keyword] else []
  let function := if functions then (s.function? name).toList else []
  let builtin := if name ∈ commandNames && !s.disabled.contains name then [Meaning.builtin] else []
  return aliases.map Meaning.alias ++ keyword ++ function.map Meaning.function ++ builtin ++
    (← filesNamed searchPath name)

/-- The search path for programs. -/
def searchPath : Step String := return ((← get).text? "PATH").getD ""

/-- The first meaning of a name; a program may have been found before. -/
def meaning? (path : String) (functions : Bool) (name : String) : Step (Option Meaning) := do
  match (← meanings path functions name).head?, (← get).places.lookup name with
  | some (.file ..), some (known, _) => return some (.file known true)
  | found, _ => return found

/-- Tell what names mean as commands. -/
def describe : Action := fun _ arguments =>
  withOptions ['a', 'f', 'p', 't', 'P'] [] arguments fun os names => do
    let mut status := 0
    for name in names do
      let path ← searchPath
      let all ←
        if has os 'P' then filesNamed path name
        else if has os 'a' then meanings path (!has os 'f') name
        else Option.toList <$> meaning? path (!has os 'f') name
      let shown := if has os 'a' then all else all.take 1
      if shown.isEmpty then
        if !has os 't' && !has os 'p' && !has os 'P' then complain (name ++ ": not found")
        status := 1
      else if has os 't' then say (String.join (shown.map fun m => m.word ++ "\n"))
      else if has os 'p' || has os 'P' then
        say (String.join ((shown.filterMap Meaning.path?).map (· ++ "\n")))
      else say (String.join (shown.map (Meaning.text name)))
    return status

/-- Tell what names mean as commands: how they are called, or in words. -/
def tellMeanings (verbose standard : Bool) (names : List String) : Step Nat := do
  let path ← if standard then pure Calling.standardPath else searchPath
  let mut found := false
  for name in names do
    match ← meaning? path true name with
    | some m =>
      found := true
      say (if verbose then m.text name else m.call name)
    | none => if verbose then complain (name ++ ": not found")
  return if found || names.isEmpty then 0 else 1

/-- Look for programs, and keep where they are found. -/
def remember : Action := fun _ arguments =>
  withOptions ['d', 'l', 'r', 't'] ['p'] arguments fun os names => do
    if has os 'r' then modify fun s => { s with places := [] }
    if names.isEmpty then
      if has os 'r' then return 0
      if has os 't' then return ← refuse "-t: option requires an argument"
      let places := (← get).places
      if places.isEmpty then say "hash: hash table empty\n"
      else
        if !has os 'l' then say "hits\tcommand\n"
        for (name, path, hits) in places do
          say (if has os 'l' then "builtin hash -p " ++ path ++ " " ++ name ++ "\n"
            else "".pushn ' ' (4 - (toString hits).length) ++ toString hits ++ "\t" ++ path ++ "\n")
      return 0
    let mut status := 0
    for name in names do
      let without (s : State) := s.places.filter (·.1 != name)
      if has os 't' then
        match (← get).places.lookup name with
        | some (path, _) => say ((if 1 < names.length then name ++ "\t" else "") ++ path ++ "\n")
        | none => status ← refuse (name ++ ": not found")
      else if has os 'd' then
        if ((← get).places.lookup name).isNone then status ← refuse (name ++ ": not found")
        modify fun s => { s with places := without s }
      else
        let path ← match valueOf? os 'p' with
          | some path => pure (some path)
          | none => do pure ((← filesNamed (← searchPath) name).head?.bind Meaning.path?)
        match path with
        | some path =>
          let isOwn := ((← get).function? name).isSome || name ∈ commandNames
          if !isOwn && !name.toList.contains '/' then
            modify fun s => { s with places := (name, path, 0) :: without s }
        | none => status ← refuse (name ++ ": not found")
    return status

/-- Let names stand for the start of a command, or list those that do. -/
def setAliases : Action := fun _ arguments =>
  withOptions ['p'] [] arguments fun os rest => do
    let show_ (a : String × String) : Step Unit := say (Meaning.call a.1 (.alias a.2))
    if rest.isEmpty || has os 'p' then
      for a in (← get).aliases.mergeSort fun a b => !(b.1 < a.1) do show_ a
    let mut status := 0
    for argument in rest do
      match Shell.Builtin.assignment argument with
      | ("", some _) => status ← refuse (argument ++ ": not found")
      | (name, some text) =>
        if name.toList.all isAliasCharacter then
          modify fun s => { s with aliases := (name, text) :: s.aliases.filter (·.1 != name) }
        else status ← refuse ("\x60" ++ name ++ "': invalid alias name")
      | (name, none) =>
        match (← get).aliases.lookup name with
        | some text => show_ (name, text)
        | none => status ← refuse (name ++ ": not found")
    return status
where
  isAliasCharacter (c : Char) : Bool :=
    c ∉ [' ', '\t', '\n', '|', '&', ';', '(', ')', '<', '>', '\'', '"', '$', '\x60', '\\', '/']

/-- Let names stand for nothing else any more. -/
def dropAliases : Action := fun _ arguments =>
  withOptions ['a'] [] arguments fun os names => do
    if has os 'a' then
      modify fun s => { s with aliases := [] }
      return 0
    if names.isEmpty then return ← usage
    let mut status := 0
    for name in names do
      if ((← get).aliases.lookup name).isNone then status ← refuse (name ++ ": not found")
      modify fun s => { s with aliases := s.aliases.filter (·.1 != name) }
    return status

/-- The commands of which the language wants that they are carried out by the shell. -/
def specialNames : List String := [
  ".", ":", "break", "continue", "eval", "exec", "exit", "export", "readonly", "return", "set",
  "shift", "source", "times", "trap", "unset"]

/-- Switch commands of the shell on or off, or list them. -/
def switchCommands : Action := fun _ arguments =>
  withOptions ['a', 'd', 'n', 'p', 's'] ['f'] arguments fun os names => do
    if names.isEmpty || has os 'p' then
      let disabled := (← get).disabled
      let line (name : String) : String :=
        "enable " ++ (if disabled.contains name then "-n " else "") ++ name ++ "\n"
      let isListed (name : String) : Bool :=
        (has os 'a' || disabled.contains name == has os 'n') &&
          (!has os 's' || specialNames.contains name)
      say (String.join ((commandNames.filter isListed).map line))
      return 0
    let mut status := 0
    for name in names do
      if let some file := valueOf? os 'f' then
        status ← refuse ("cannot open shared object " ++ file ++ ": " ++ file ++
          ": cannot open shared object file: " ++ Error.notFound.text)
      else if name ∉ commandNames then status ← refuse (name ++ ": not a shell builtin")
      else if has os 'd' then status ← refuse (name ++ ": not dynamically loaded")
      else
        modify fun s =>
          let others := s.disabled.filter (· ≠ name)
          { s with disabled := if has os 'n' then name :: others else others }
    return status

/-- Tell of commands what is known of them: only of those that are not there. -/
def explain : Action := fun _ arguments =>
  withOptions ['d', 'm', 's'] [] arguments fun _ names => do
    let mut status := 0
    for name in names do
      if name ∉ commandNames && name ∉ keywords then
        status ← refuse ("no help topics match \x60" ++ name ++ "'.  Try \x60help help' or \x60man -k " ++
          name ++ "' or \x60info " ++ name ++ "'.")
    return status

/-- Tell from where a function was called. -/
def tellCaller : Action := fun _ arguments => do
  let frames := (← get).frames
  let source (n : Nat) : Option String := (frames[n]?).map (·.source)
  match arguments with
  | [] =>
    match frames.head? with
    | none => return 1
    | some f =>
      say (toString f.line ++ " " ++ (source 1).getD "NULL" ++ "\n")
      return 0
  | a :: _ =>
    match (integer? a).filter (0 ≤ ·) with
    | none =>
      complain (a ++ ": invalid number")
      usage
    | some n =>
      match frames[n.toNat]?, frames[n.toNat + 1]? with
      | some f, some outer =>
        say (toString f.line ++ " " ++ outer.name ++ " " ++ outer.source ++ "\n")
        return 0
      | _, _ => return 1

/-- Write how much time was used. -/
def times : Action := fun _ _ => do
  say "0m0.000s 0m0.000s\n0m0.000s 0m0.000s\n"
  return 0

end CompileTree.Shell.Extended.Builtin
