import CompileTree.Shell.Extended.Builtin.Candidates
import CompileTree.Shell.Extended.Builtin.Flow
import CompileTree.Shell.Extended.Builtin.Arguments
import CompileTree.Shell.Act
import CompileTree.Shell.Extended.Formats
import CompileTree.Shell.Extended.Builtin.Places
import CompileTree.Shell.Extended.Builtin.Reading

/-! # Commands of the extended language

What the commands are that the extended shell carries out itself. Some of them declare
variables, and are given assignments as well as texts.
-/

/-! ## Commands that write or answer

Texts and formats are written, and conditions and expressions are answered.
-/

namespace CompileTree.Shell.Extended.Builtin

open Step

/-- Whether an argument consists of options for writing texts. -/
def isEchoOption (argument : String) : Bool :=
  match argument.toList with
  | '-' :: c :: cs => (c :: cs).all (· ∈ ['n', 'e', 'E'])
  | _ => false

/-- Write the arguments. -/
def echo : Action := fun _ arguments => do
  let given := (arguments.takeWhile isEchoOption)
  let letters := given.flatMap fun a => a.toList.drop 1
  let s ← get
  let escapes := match (letters.filter (· ≠ 'n')).getLast? with
    | some c => c == 'e'
    | none => s.hasExtra "xpg_echo"
  let text := (" ".intercalate (arguments.drop given.length)).toList
  let (cs, stopped) := if escapes then Escapes.expand .written text else (text, false)
  say (String.ofList (if letters.contains 'n' || stopped then cs else cs ++ ['\n']))
  return 0

/-- Write what a format has become, of which so many characters were written before, and tell
    what was wrong. Before that only whole lines are written. -/
def sayFormat (cs : List Char) : Nat → List Formats.Fault → Step Unit
  | said, [] => say (String.ofList (cs.drop said))
  | said, f :: rest => do
    let known := cs.take f.place
    let whole := known.length - (known.reverse.takeWhile (· ≠ '\n')).length
    say (String.ofList ((cs.take whole).drop said))
    complain f.text
    sayFormat cs (max said whole) rest

/-- Write a format, or assign what it writes. -/
def printf : Action := fun _ arguments =>
  withOptions [] ['v'] arguments fun os rest => do
    match rest, valueOf? os 'v' with
    | [], _ => usage
    | format :: arguments, target =>
      let place := target.map Expansion.parameterOf?
      match place, target with
      | some none, some name | some (some (.position _, _)), some name =>
        complain ("\x60" ++ name ++ "': not a valid identifier")
        return 2
      | _, _ => pure ()
      let s ← get
      let seconds (clock : Nat) : Int := Files.Tree.startTime / 1000000000 + clock / 1000000000
      let times : Formats.Times := ⟨seconds (← getThe System).clock, seconds s.started.1⟩
      let ⟨text, faults, counts⟩ := Formats.print times format arguments
      if place.isSome then for f in faults do complain f.text
      match place with
      | some (some (.named name, none)) => Values.setText name text
      | some (some (.named name, some subscript)) =>
        let key ← Values.keyOf name subscript
        Values.assign name (some key) text false
      | _ => sayFormat text.toList 0 faults
      for (name, n) in counts do
        if Script.isName name.toList then Values.setText name (toString n)
      return if faults.any (·.isFailure) then 1 else 0

/-- Answer a condition. -/
def test (name : String) : Action := fun _ arguments => do
  match ← Conditions.ofWords name arguments with
  | .ok status => return status
  | .error text =>
    complain text
    return 2

/-- Answer expressions. -/
def calculate : Action := fun _ arguments => do
  let arguments := match arguments with
    | "--" :: rest => rest
    | all => all
  if arguments.isEmpty then return ← refuse "expression expected"
  tryCatch
    (do
      let mut last : Int64 := 0
      for a in arguments do last ← Values.calculate a
      return Conditions.statusOf (last != 0))
    fun
      | .discard n => return n
      | j => throw j

/-! ## The command for limits of the extended shell

Limits are shown and set in units of their own, by the letters of their kinds.
-/

/-- A kind of limits as it is called, with the unit in which it is counted. -/
structure LimitKind where
  letter : Char
  name : String
  units : String
  size : Nat
  /-- The letter by which the system knows the kind. -/
  known : Char

/-- The kinds of limits in the order in which they are listed. -/
def limitKinds : List LimitKind := [
  ⟨'R', "real-time non-blocking time", "microseconds", 1, 'R'⟩,
  ⟨'c', "core file size", "blocks", 1024, 'c'⟩, ⟨'d', "data seg size", "kbytes", 1024, 'd'⟩,
  ⟨'e', "scheduling priority", "", 1, 'e'⟩, ⟨'f', "file size", "blocks", 1024, 'f'⟩,
  ⟨'i', "pending signals", "", 1, 'i'⟩, ⟨'l', "max locked memory", "kbytes", 1024, 'l'⟩,
  ⟨'m', "max memory size", "kbytes", 1024, 'm'⟩, ⟨'n', "open files", "", 1, 'n'⟩,
  ⟨'p', "pipe size", "512 bytes", 512, ' '⟩, ⟨'q', "POSIX message queues", "bytes", 1, 'q'⟩,
  ⟨'r', "real-time priority", "", 1, 'r'⟩, ⟨'s', "stack size", "kbytes", 1024, 's'⟩,
  ⟨'t', "cpu time", "seconds", 1, 't'⟩, ⟨'u', "max user processes", "", 1, 'p'⟩,
  ⟨'v', "virtual memory", "kbytes", 1024, 'v'⟩, ⟨'x', "file locks", "", 1, 'w'⟩]

/-- The limit of a kind that the shell has. -/
def limitOf (k : LimitKind) : Step Limit := do
  if k.known = ' ' then return ⟨some 4096, some 4096⟩
  return Limit.ofProcess (← getThe System) (← get).process.number k.known

/-- A bound in the unit of a kind. -/
def boundText (k : LimitKind) (bound : Option Nat) : String :=
  bound.elim "unlimited" fun n => toString (n / k.size)

/-- What a kind of limits is called in a list. -/
def limitTitle (k : LimitKind) : String :=
  let units := "(" ++ (if k.units = "" then "" else k.units ++ ", ") ++ "-" ++
    String.singleton k.letter ++ ") "
  Progress.filled 20 k.name ++ " " ++ "".pushn ' ' (20 - units.length) ++ units

/-- Set a limit. -/
def setLimit (k : LimitKind) (soft hard : Bool) (text : String) : Step Nat := do
  let old ← limitOf k
  let bound? : Option (Option Nat) := match text with
    | "unlimited" => some none
    | "hard" => some old.hard
    | "soft" => some old.soft
    | _ => ((integer? text).filter (0 ≤ ·)).map fun n => some (n.toNat * k.size)
  match bound? with
  | none => refuse (text ++ ": invalid number")
  | some bound =>
    let new : Limit := ⟨if soft then bound else old.soft, if hard then bound else old.hard⟩
    let number := (← get).process.number
    let result ← if k.known = ' ' then pure (.error .invalidArgument)
      else perform (new.change number k.known)
    match result with
    | .ok () => return 0
    | .error e => refuse (k.name ++ ": cannot modify limit: " ++ e.text)

/-- Show or set limits. -/
def limit : Action := fun _ arguments =>
  withOptions (['H', 'S', 'a'] ++ limitKinds.map (·.letter)) [] arguments fun os rest => do
    let soft := has os 'S'
    let hard := has os 'H'
    let shown (k : LimitKind) : Step String := do
      let l ← limitOf k
      return boundText k (if hard && !soft then l.hard else l.soft) ++ "\n"
    let asked := os.filterMap fun (c, _) => limitKinds.find? (·.letter == c)
    let asked := if asked.isEmpty then limitKinds.filter (·.letter == 'f') else asked
    match rest with
    | [] =>
      let listed := if has os 'a' then limitKinds else asked
      for k in listed do
        let title := if 1 < listed.length then limitTitle k else ""
        say (title ++ (← shown k))
      return 0
    | value :: _ =>
      let mut status := 0
      for k in asked do
        status := max status (← setLimit k (soft || !hard) (hard || !soft) value)
      return status

/-! ## The commands and their actions -/

/-- End with a fixed status. -/
def always (status : Nat) : Action := fun _ _ => return status

/-- The shell is not one that was logged into. -/
def refuseLogout : Action := fun _ _ => refuse "not login shell: use \x60exit'"

/-- The shell cannot rest, since nothing could wake it up. -/
def refuseRest : Action := fun _ _ => refuse "cannot suspend: no job control"

/-- The commands that are given texts. -/
def actions : List (String × Action) := [
  (":", always 0), ("true", always 0), ("false", always 1),
  (".", source), ("source", source), ("break", leaveLoops .leave),
  ("continue", leaveLoops .again), ("eval", evaluate .plain), ("exec", become), ("exit", exit),
  ("return", back), ("set", set), ("shopt", shopt), ("shift", shift), ("getopts", nextOption),
  ("times", times), ("trap", trap), ("unset", unset), ("kill", kill), ("wait", wait),
  ("jobs", listJobs), ("disown", disown), ("bg", noControl), ("fg", noControl),
  ("[", test "["), ("test", test "test"), ("let", calculate), ("echo", echo), ("printf", printf),
  ("read", read), ("mapfile", readList), ("readarray", readList), ("cd", changeDirectory),
  ("pwd", workingDirectory), ("pushd", push), ("popd", pop), ("dirs", listStack),
  ("umask", mask), ("ulimit", limit), ("type", describe), ("hash", remember),
  ("alias", setAliases), ("unalias", dropAliases), ("enable", switchCommands),
  ("caller", tellCaller), ("logout", refuseLogout), ("bind", always 0), ("compgen", listCandidates),
  ("complete", always 0), ("compopt", always 1), ("fc", always 0), ("help", explain),
  ("history", always 0), ("suspend", refuseRest)]

/-- The commands that declare variables. -/
def declaring : List (String × (Runner → List Operand → Step Nat)) := [
  ("declare", declare), ("typeset", declare), ("local", declare),
  ("export", markVariables 'x'), ("readonly", markVariables 'r')]

/-- What a name does, given what follows it. -/
def action? (m : Manner) (name : String) : Option (Runner → List Operand → Step Nat) :=
  let texts (a : Action) : Runner → List Operand → Step Nat := fun e operands =>
    a e (operands.map Operand.spelling)
  if name = "eval" then some (texts (evaluate m))
  else (declaring.lookup name).or ((actions.lookup name).map texts)

/-- The commands that only fail where they cannot assign what they have read or made. -/
def assigningNames : List String := ["read", "mapfile", "readarray", "getopts", "printf"]

/-- The commands that do not care whether what they write is lost. -/
def carelessNames : List String := ["caller", "compgen", "kill", "ulimit"]

/-- Carry out a command of the language. -/
def run (name : String) (r : Step Nat) : Step Nat := do
  modify fun s => { s with lost := none }
  named (some name) do
    let n ← tryCatch r fun
      | .discard n => if name ∈ assigningNames then return n else throw (.discard n)
      | j => throw j
    match (← get).lost with
    | some reason =>
      modify fun s => { s with lost := none }
      if name ∈ carelessNames then return n
      complain ("write error: " ++ reason.text)
      return if name ∈ ["pushd", "popd"] then n else 1
    | none => return n

end CompileTree.Shell.Extended.Builtin
