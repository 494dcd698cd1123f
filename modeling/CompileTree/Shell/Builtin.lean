import CompileTree.Shell.Builtin.Flow
import CompileTree.Shell.Builtin.Arguments
import CompileTree.Shell.Act
import CompileTree.Shell.Builtin.Output
import CompileTree.Shell.Builtin.Places
import CompileTree.Shell.Builtin.Variables

/-! # Commands of the language

What the commands are that a shell carries out itself, and what a name means as a
command.
-/

/-! ## The command for limits

Limits are shown and set in units of their own, by the letters of their kinds.
-/

namespace CompileTree.Shell.Builtin

open Run

/-- A kind of limits as it is called, with the size of the unit in which it is counted. -/
structure LimitKind where
  letter : Char
  name : String
  unit : Nat

/-- The kinds of limits in the order in which they are listed. -/
def limitKinds : List LimitKind := [
  ⟨'t', "time(seconds)", 1⟩, ⟨'f', "file(blocks)", 512⟩, ⟨'d', "data(kbytes)", 1024⟩,
  ⟨'s', "stack(kbytes)", 1024⟩, ⟨'c', "coredump(blocks)", 512⟩, ⟨'m', "memory(kbytes)", 1024⟩,
  ⟨'l', "locked memory(kbytes)", 1024⟩, ⟨'p', "process", 1⟩, ⟨'n', "nofiles", 1⟩,
  ⟨'v', "vmemory(kbytes)", 1024⟩, ⟨'w', "locks", 1⟩, ⟨'r', "rtprio", 1⟩]

/-- Which of the two bounds of a limit letters ask for: that in force, and the highest. -/
def boundsAsked (letters : List Char) : Bool × Bool :=
  match (letters.filter fun c => c == 'H' || c == 'S').getLast? with
  | some 'H' => (false, true)
  | some _ => (true, false)
  | none => (true, true)

/-- Show or set limits. -/
def limit : Action := fun _ arguments => do
  let (os, rest) ← options (['H', 'S', 'a'] ++ limitKinds.map (·.letter)) [] arguments
  let letters := os.map (·.1)
  let (soft, hard) := boundsAsked letters
  let letter := ((letters.filter (· ∉ ['H', 'S', 'a'])).getLast?).getD 'f'
  let kind := ((limitKinds.find? (·.letter == letter))).getD ⟨letter, "", 1⟩
  let number := (← get).process.number
  let shown (k : LimitKind) : Run String := do
    let l := Limit.ofProcess (← getThe System) number k.letter
    return ((if soft then l.soft else l.hard).elim "unlimited" fun n => toString (n / k.unit)) ++ "\n"
  let all := letters.contains 'a'
  match rest with
  | [] =>
    if all then
      for k in limitKinds do
        say (k.name ++ "".pushn ' ' (20 - k.name.length) ++ " " ++ (← shown k))
    else say (← shown kind)
    return 0
  | value :: more =>
    if all || !more.isEmpty then fault "too many arguments" 2
    let cs := value.toList
    if value ≠ "unlimited" ∧ !cs.all Char.isDigit then fault "bad number" 2
    let bound := if value = "unlimited" then none
      else some (Script.Reader.digitsValue cs * kind.unit)
    let old := Limit.ofProcess (← getThe System) number kind.letter
    let new : Limit := ⟨if soft then bound else old.soft, if hard then bound else old.hard⟩
    match ← perform (new.change number kind.letter) with
    | .ok () => return 0
    | .error e => fault ("error setting limit (" ++ e.text ++ ")") 2

/-! ## The commands and their actions -/

open Script

/-- End with a fixed status. -/
def always (status : Nat) : Action := fun _ _ => return status

/-- Look for programs. -/
def remember : Action := fun _ arguments => do
  let (_, names) ← options ['r', 'v'] [] arguments
  let mut status := 0
  for name in names do
    let s ← get
    let t := (← getThe System).files
    if (Call.pathOf? t s.process (s.value? "PATH") name).isNone then
      complain (name ++ ": not found")
      status := 1
  return status

/-- There are no jobs that could be brought back. -/
def noJob : Action := fun _ _ => fault "No current job" 2

/-- Write how much time was used. -/
def times : Action := fun _ _ => do
  say "0m0.000000s 0m0.000000s\n0m0.000000s 0m0.000000s\n"
  return 0

/-- Write what a name means as a command. -/
def describe (verbose : Bool) (name : String) : Run Nat := do
  let s ← get
  if name ∉ keywords then
    if let some text := s.aliases.lookup name then
      if verbose then say (name ++ " is an alias for " ++ text ++ "\n")
      else
        say "alias "
        sayAlias (name, text)
      return 0
  let kind ←
    if name ∈ keywords then pure (some ("a shell keyword", name))
    else if (s.functions.lookup name).isSome then pure (some ("a shell function", name))
    else if name ∈ specialCommands then pure (some ("a special shell builtin", name))
    else if name ∈ others then pure (some ("a shell builtin", name))
    else
      let t := (← getThe System).files
      pure ((Call.pathOf? t s.process (s.value? "PATH") name).map fun path => (path, path))
  match kind with
  | some (text, path) =>
    say (if verbose then name ++ " is " ++ text ++ "\n" else path ++ "\n")
    return 0
  | none =>
    if verbose then say (name ++ ": not found\n")
    return 127
where
  others : List String :=
    ["[", "alias", "bg", "cd", "chdir", "command", "echo", "false", "fg", "getopts", "hash",
      "jobs", "kill", "printf", "pwd", "read", "test", "true", "type", "ulimit", "umask",
      "unalias", "wait"]

/-- Write what names mean as commands. -/
def kinds : Action := fun _ arguments => do
  let mut status := 0
  for name in arguments do
    let n ← describe true name
    if n ≠ 0 then status := n
  return status

/-- Write what a name means as a command, if that is asked for. -/
def command : Action := fun _ arguments => do
  let (os, rest) ← options ['p', 'v', 'V'] [] arguments
  match (os.filter (·.1 != 'p')).getLast?, rest with
  | some (letter, _), name :: _ => describe (letter == 'V') name
  | _, _ => return 0

/-- The commands that a shell carries out itself. -/
def actions : List (String × Action) := [
  (":", always 0), ("true", always 0), ("false", always 1),
  (".", source), ("break", leaveLoops .leave), ("continue", leaveLoops .again),
  ("eval", evaluate .plain), ("exec", become), ("exit", exit), ("export", exportVariables),
  ("local", own), ("readonly", fixVariables), ("return", back), ("set", set), ("shift", shift),
  ("times", times), ("trap", trap), ("unset", unset),
  ("[", test "["), ("test", test "test"), ("echo", echo), ("printf", printf),
  ("cd", changeDirectory), ("chdir", changeDirectory), ("pwd", workingDirectory),
  ("umask", mask), ("getopts", nextOption), ("read", read), ("kill", kill), ("wait", wait),
  ("type", kinds), ("command", command),
  ("alias", setAliases), ("unalias", dropAliases), ("hash", remember), ("jobs", listJobs),
  ("bg", noJob), ("fg", noJob), ("ulimit", limit)]

/-- The action of a name. -/
def action? (m : Manner) (name : String) : Option Action :=
  if name = "eval" then some (evaluate m) else actions.lookup name

/-- Carry out a command of the language; `passed` tells whether a fault in it ends the
    shell. -/
def run (e : Engine) (action : Action) (passed : Bool) (name : String)
    (arguments : List String) : Run Nat := do
  let outer := (← get).command
  let back (n : Nat) : Run Nat := do
    modify fun s => { s with command := outer }
    return n
  modify fun s => { s with command := some name, lost := false }
  tryCatch
    (do
      let n ← action e arguments
      if (← get).lost then
        modify fun s => { s with lost := false }
        complain (name ++ ": I/O error")
        back (n ||| 1)
      else back n)
    fun
      | .fault n => if passed then throw (.fault n) else back n
      | j => do
        let _ ← back 0
        throw j

end CompileTree.Shell.Builtin
