import CompileTree.Shell.Extended.Commands
import CompileTree.Shell.Invocation

/-! # Invoking the extended shell

The shell runs a script that a file, an argument or its input holds. Options come first;
what follows the script are its arguments.
-/

namespace CompileTree.Shell.Extended.Invocation

open Files Step Text

/-- Where the script of a shell is. -/
inductive Origin where
  | file (path : String)
  | argument (text : String)
  | input
  deriving DecidableEq, Repr

/-- The kind of machine for which the shell was built. -/
def machine : String := "x86_64-pc-linux-gnu"

/-- The path of the shell, by what it was called. -/
def ownPath (t : Tree) (p : Process) (called : String) : String :=
  (Calling.pathOf? t p (p.valueOf? "PATH" |>.or (some Calling.standardPath)) called).getD called

/-- A variable that is fixed. -/
def fixedVariable (name : String) (integer : Bool) (content : Content) : Variable :=
  { Variable.plain name content with fixed := true, integer }

/-- The variables that a shell sets if they are not in its environment. -/
def usual : List (String × String) := [
  ("PATH", Calling.standardPath), ("TERM", "dumb"), ("SHELL", "/bin/bash"),
  ("HOSTNAME", "localhost"), ("PS4", "+ ")]

/-- The variables that a shell sets by itself. -/
def preset (p : Process) (path : String) : List Variable := [
  Variable.plain "BASH" (.text path),
  Variable.plain "BASH_VERSION" (.text "5.2.15(1)-release"),
  fixedVariable "BASH_VERSINFO" false
    (Values.listOf ["5", "2", "15", "1", "release", machine]),
  fixedVariable "BASHOPTS" false (.text ""), fixedVariable "SHELLOPTS" false (.text ""),
  Variable.plain "DIRSTACK" (.list []), Variable.plain "BASH_CMDS" (.table []),
  Variable.plain "BASH_ALIASES" (.table []),
  fixedVariable "EUID" true (.text "0"), fixedVariable "UID" true (.text "0"),
  fixedVariable "PPID" true (.text (toString p.parent)),
  Variable.plain "HOSTTYPE" (.text "x86_64"), Variable.plain "MACHTYPE" (.text machine),
  Variable.plain "OSTYPE" (.text "linux-gnu"), Variable.plain "IFS" (.text " \t\n"),
  Variable.plain "OPTERR" (.text "1"),
  { Variable.plain "OPTIND" (.text "1") with integer := true }]

/-- The name and the body of a function that an environment hands on. -/
def handedFunction? (name value : String) : Option Function :=
  let start := "BASH_FUNC_"
  if name.startsWith start && name.endsWith "%%" && value.startsWith "() \x7b" then
    let own := ((name.drop start.length).dropEnd 2).copy
    match Reader.line.run (Source.ofText 0 false (own ++ " " ++ value).toList) with
    | .ok (some (.define _ _ body), _) => some ⟨own, body, "environment", 0, 0, true⟩
    | _ => none
  else none

/-- A shell that has run nothing yet. -/
def state (sys : System) (p : Process) (called : String) : State :=
  let t := sys.files
  let directory := Shell.Invocation.directoryOf t p
  let path := ownPath t p called
  let ignored := ((sys.standing? p.number).map (·.ignored)).getD []
  let handed (v : Variable) : Variable := { v with exported := true }
  let inherited := (p.environment.filter fun v => Script.isName v.1.toList && v.1 != "_").map
    fun (name, value) => handed (Variable.plain name (.text value))
  let depth := ((p.valueOf? "SHLVL").bind String.toNat?).getD 0 + 1
  let old := (p.valueOf? "OLDPWD").filter fun path => t.isDirectory p.working (Process.path path)
  let missing := usual.filter fun (name, _) => (p.valueOf? name).isNone
  let all := inherited ++ missing.map (fun (name, value) => Variable.plain name (.text value)) ++
    preset p path ++ [
      handed (Variable.plain "PWD" (.text directory)),
      handed (Variable.plain "OLDPWD" (old.elim .nothing .text)),
      handed (Variable.plain "SHLVL" (.text (toString depth)))]
  let scope := all.foldl Scope.put ⟨.shell, []⟩
  { name := called, root := p.number, process := p, traps := [], ignored, jobs := []
    lastJob := none, status := 0, line := 0, arguments := [], scopes := [scope]
    functions := p.environment.filterMap fun (name, value) => handedFunction? name value
    options := ["braceexpand", "hashall", "interactive-comments"], extras := usualExtras
    documents := [], nextDocument := 0, statuses := [0], substituted := none, frames := []
    loops := 0, base := 0, reading := none, subshells := 0, level := 1, directory, stack := []
    optionOffset := 0, lost := none, command := none, random := p.number
    started := (sys.clock, 0), channels := [], titles := [], foremost := [], inheritedJobs := []
    inheritedTraps := [], past := [], isSubstitution := false, places := [], aliases := []
    disabled := [], partners := [], lastWord := called, current := "", handling := false }

/-- End the shell because of how it was called. -/
def refuse {α : Type} (text : String) (status : Nat) : Step α := do
  let s ← get
  perform (s.process.complain (s.name ++ ": " ++ text))
  throw (.ended (.exited status))

/-- What the options of a shell ask for. -/
structure Asked where
  argument : Bool
  input : Bool

/-- Turn the options on or off that an argument names by its letters, with what they take
    from the arguments behind it. -/
def turnLetters (on : Bool) (asked : Asked) :
    List Char → List String → Step (Asked × List String)
  | [], rest => return (asked, rest)
  | 'c' :: cs, rest => turnLetters on { asked with argument := true } cs rest
  | 's' :: cs, rest => do
    modify fun s => { s with options := "stdin" :: s.options }
    turnLetters on { asked with input := true } cs rest
  | 'o' :: cs, rest => do
    match rest with
    | [] =>
      Builtin.listOptions on
      throw (.ended (.exited 0))
    | name :: rest =>
      if optionNames.any (·.1 == name) then Builtin.turn on name
      else refuse ((← get).name ++ ": " ++ name ++ ": invalid option name") 2
      turnLetters on asked cs rest
  | 'O' :: cs, rest => do
    match rest with
    | [] => throw (.ended (.exited 0))
    | name :: rest =>
      if name ∈ extraNames then Builtin.turnExtra on name
      else refuse (name ++ ": invalid shell option name") 2
      turnLetters on asked cs rest
  | c :: cs, rest => do
    match optionNames.find? (·.2 == some c) with
    | some (name, _) => Builtin.turn on name
    | none =>
      if c ∉ ['i', 'l', 'r', 'D'] then
        refuse (String.ofList [if on then '-' else '+', c] ++ ": invalid option") 2
    turnLetters on asked cs rest

/-- The long options that change nothing here. -/
def idleOptions : List String := [
  "--login", "--noprofile", "--norc", "--noediting", "--restricted", "--verbose", "--debugger"]

/-- Read the options of a shell; what is left is returned. `fuel` bounds the arguments. -/
def readOptions : Nat → Asked → List String → Step (Asked × List String)
  | 0, asked, rest => return (asked, rest)
  | _ + 1, asked, [] => return (asked, [])
  | fuel + 1, asked, a :: rest => do
    match a.toList with
    | ['-', '-'] | ['-'] => return (asked, rest)
    | '-' :: '-' :: _ =>
      if a = "--posix" then Builtin.turn true "posix"
      else if a ∉ idleOptions then refuse (a ++ ": invalid option") 2
      readOptions fuel asked rest
    | '-' :: cs => do
      let (asked, rest) ← turnLetters true asked cs rest
      readOptions fuel asked rest
    | '+' :: c :: cs => do
      let (asked, rest) ← turnLetters false asked (c :: cs) rest
      readOptions fuel asked rest
    | _ => return (asked, a :: rest)

/-- Find out where the script is, and take over its arguments. -/
def origin (arguments : List String) : Step Origin := do
  let (asked, rest) ← readOptions (arguments.length + 1) ⟨false, false⟩ arguments
  match asked.argument, rest with
  | true, [] => refuse "-c: option requires an argument" 2
  | true, text :: rest =>
    modify fun s => { s with
      name := rest.headD s.name, arguments := rest.drop 1, options := "command" :: s.options }
    return .argument text
  | false, path :: given =>
    if asked.input then
      modify fun s => { s with arguments := rest }
      return .input
    else
      modify fun s => { s with arguments := given }
      return .file path
  | false, [] =>
    if !asked.input then modify fun s => { s with options := "stdin" :: s.options }
    return .input

/-- The path on which a script is found. -/
def scriptPath (s : State) (t : Tree) (name : String) : String :=
  if '/' ∈ name.toList || t.isFile s.process.working (Process.path name) then name
  else
    ((Calling.candidates ((s.text? "PATH").getD "") name).find? fun path =>
      t.isFile s.process.working (Process.path path)).getD name

/-- Run the script of a file. -/
def runFile (e : Runner) (name : String) : Step Nat := do
  let s ← get
  let sys ← getThe System
  let path := scriptPath s sys.files name
  match sys.files.entry s.process.working true (Process.path path) with
  | .ok (_, .directory) =>
    set { s with name := path }
    refuse (path ++ ": " ++ Error.isADirectory.text) 126
  | .ok (_, .file bytes _) =>
    if Calling.isBinary (bytes.extract 0 Calling.sampleSize).toList then
      set { s with name := path }
      refuse (path ++ ": cannot execute binary file") 126
  | _ => pure ()
  match ← perform (s.process.openFile path .read) with
  | .ok index =>
    set { s with name := path, frames := [⟨"main", path, 0⟩] }
    e.evaluateFile index
  | .error reason => refuse (path ++ ": " ++ reason.text) (if reason == .notFound then 127 else 126)

/-- Run the script that an origin holds. -/
def runOrigin (e : Runner) (o : Origin) : Step Nat := do
  match o with
  | .argument text =>
    modify fun s => { s with level := 0 }
    e.evaluate ⟨false, true⟩ (some "-c") 0 text
  | .input =>
    match (← get).process.descriptors.lookup 0 with
    | some index => e.evaluateFile index
    | none => return 0
  | .file path => runFile e path

/-- Run a shell as a process. The first argument is what it is called. -/
def shell (call : Process → String → List String → Act ExitStatus) (p : Process)
    (arguments : List String) : Act ExitStatus := do
  let e := Commands.runner call
  let s := state (← get) p (arguments.headD "bash")
  let whole : Step Nat := do
    provide
    let o ← origin (arguments.drop 1)
    runOrigin e o
  match ← (e.conclude whole).run.run s with
  | (.ok how, _) => return how
  | (.error (.ended how), _) => return how
  | (.error _, s) => return .exited s.status

end CompileTree.Shell.Extended.Invocation
