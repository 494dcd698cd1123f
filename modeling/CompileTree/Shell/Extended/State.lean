import CompileTree.Shell.Extended.Reader
import CompileTree.Shell.Extended.Variables
import CompileTree.Shell.Workplace

/-! # State of the extended shell

What the shell knows while it runs commands: its variables, functions, options and
traps, the jobs it has started and how the last commands ended. A step may change all
of it, and may leave the commands that are being run.
-/

namespace CompileTree.Shell.Extended

open Files Text

/-- A function. -/
structure Function where
  name : String
  body : Statement
  /-- The file in which it was defined. -/
  source : String
  /-- The line behind which the lines of its body are counted. -/
  base : Nat
  /-- The line on which its definition starts. -/
  line : Nat
  exported : Bool

/-- A function or a file whose commands are being run. -/
structure Frame where
  /-- What is being run: a function, or what stands for a file. -/
  name : String
  /-- The file in which the commands stand. -/
  source : String
  /-- The line from which it was called. -/
  line : Nat
  deriving DecidableEq, Repr

/-- A process that works beside the shell, which is joined to it in both directions. -/
structure Partner where
  /-- The array that holds the descriptors. -/
  name : String
  number : Nat
  /-- The descriptor from which the shell reads what the process writes. -/
  output : Nat
  /-- The descriptor by which the shell writes what the process reads. -/
  input : Nat
  deriving DecidableEq, Repr

/-- What the shell knows while it runs commands. -/
structure State extends Workplace where
  arguments : List String
  /-- The scopes of variables, the innermost first. -/
  scopes : List Scope
  functions : List Function
  /-- The options that are on, by name. -/
  options : List String
  /-- The further options that are on, by name. -/
  extras : List String
  documents : List (Nat × List Part)
  nextDocument : Nat
  /-- How the commands of the last pipeline ended. -/
  statuses : List Nat
  /-- How the last command in a word of the command ended that is being run. -/
  substituted : Option Nat
  /-- The functions and files whose commands are being run, the innermost first. -/
  frames : List Frame
  /-- How many loops are being run. -/
  loops : Nat
  /-- The line behind which the lines of commands are counted. -/
  base : Nat
  /-- The name of the text that is being read, which is told where it is faulty. -/
  reading : Option String
  /-- How many processes of their own the commands stand in. -/
  subshells : Nat
  /-- How deep texts are being run as commands. -/
  level : Nat
  /-- The path of the working directory as it was entered. -/
  directory : String
  /-- The directories that were put aside. -/
  stack : List String
  /-- How many characters were read of the argument at which options are being read. -/
  optionOffset : Nat
  /-- What was wrong where something that was to be written was lost. -/
  lost : Option Error
  /-- What the command is called that complains. -/
  command : Option String
  /-- The last random number, from which the next one follows. -/
  random : Nat
  /-- The time from which seconds are counted, and with how many. -/
  started : Nat × Nat
  /-- The descriptors through which the command that is being run is joined to others, with
      their processes. -/
  channels : List (Nat × Nat)
  /-- What processes run that were started in the background. -/
  titles : List (Nat × String)
  /-- The numbers of the job that is the current one, and of the one before it. -/
  foremost : List Nat
  /-- The jobs of the shell of which this one is a part. -/
  inheritedJobs : List Job
  /-- What the shell provided for of which this one is a part. -/
  inheritedTraps : List (Nat × String)
  /-- How processes ended that no job is kept for. -/
  past : List (Nat × ExitStatus)
  /-- Whether what is written is put into a word. -/
  isSubstitution : Bool
  /-- The paths on which programs were found, with how often they were called. -/
  places : List (String × String × Nat)
  /-- Names that stand for the start of a command. -/
  aliases : List (String × String)
  /-- The commands of the shell that are switched off. -/
  disabled : List String
  /-- The processes that were started to work beside the shell. -/
  partners : List Partner
  /-- The last word of the command before. -/
  lastWord : String
  /-- The command that is being run, or was when something had to be done about a signal. -/
  current : Thunk String
  /-- Whether something is being done about a signal, or about what is treated like one. -/
  handling : Bool

/-- The options of the shell with their letters, as they are listed. -/
def optionNames : List (String × Option Char) := [
  ("allexport", some 'a'), ("braceexpand", some 'B'), ("emacs", none), ("errexit", some 'e'),
  ("errtrace", some 'E'), ("functrace", some 'T'), ("hashall", some 'h'),
  ("histexpand", some 'H'), ("history", none), ("ignoreeof", none),
  ("interactive-comments", none), ("keyword", some 'k'), ("monitor", some 'm'),
  ("noclobber", some 'C'), ("noexec", some 'n'), ("noglob", some 'f'), ("nolog", none),
  ("notify", some 'b'), ("nounset", some 'u'), ("onecmd", some 't'), ("physical", some 'P'),
  ("pipefail", none), ("posix", none), ("privileged", some 'p'), ("verbose", some 'v'),
  ("vi", none), ("xtrace", some 'x')]

/-- The further options of the shell as they are listed. -/
def extraNames : List String := [
  "autocd", "assoc_expand_once", "cdable_vars", "cdspell", "checkhash", "checkjobs",
  "checkwinsize", "cmdhist", "compat31", "compat32", "compat40", "compat41", "compat42",
  "compat43", "compat44", "complete_fullquote", "direxpand", "dirspell", "dotglob", "execfail",
  "expand_aliases", "extdebug", "extglob", "extquote", "failglob", "force_fignore",
  "globasciiranges", "globskipdots", "globstar", "gnu_errfmt", "histappend", "histreedit",
  "histverify", "hostcomplete", "huponexit", "inherit_errexit", "interactive_comments",
  "lastpipe", "lithist", "localvar_inherit", "localvar_unset", "login_shell", "mailwarn",
  "no_empty_cmd_completion", "nocaseglob", "nocasematch", "noexpand_translation", "nullglob",
  "patsub_replacement", "progcomp", "progcomp_alias", "promptvars", "restricted_shell",
  "shift_verbose", "sourcepath", "syslog_history", "varredir_close", "xpg_echo"]

/-- The further options that are on at the start. -/
def usualExtras : List String := [
  "checkwinsize", "cmdhist", "complete_fullquote", "extquote", "force_fignore",
  "globasciiranges", "globskipdots", "hostcomplete", "interactive_comments",
  "patsub_replacement", "progcomp", "promptvars", "sourcepath"]

/-- Numbers that stand for what is no signal but may be provided for like one. -/
def debugTrap : Nat := 65

/-- The number that stands for failures. -/
def failureTrap : Nat := 66

/-- The number that stands for the return from a function or file. -/
def returnTrap : Nat := 67

/-- Why the commands that are being run are left. -/
inductive Leap where
  /-- The shell ends. -/
  | exit (status : Nat)
  /-- The line of commands is given up. -/
  | discard (status : Nat)
  /-- The process has ended. -/
  | ended (status : ExitStatus)
  /-- A function or file returns. -/
  | back (status : Nat)
  /-- A number of loops is left. -/
  | leave (loops : Nat)
  /-- A number of loops less one is left, and the next one goes on. -/
  | again (loops : Nat)

/-- A step of the shell. -/
abbrev Step := ExceptT Leap (StateT State Act)

namespace State

/-- Whether an option is on. -/
def has (s : State) (option : String) : Bool := s.options.contains option

/-- Whether a further option is on. -/
def hasExtra (s : State) (option : String) : Bool := s.extras.contains option

/-- The variable of a name as it was declared. -/
def find? (s : State) (name : String) : Option Variable := s.scopes.findSome? (·.find? name)

/-- The value of a variable that is no array. -/
def text? (s : State) (name : String) : Option String := (s.find? name).bind (·.content.value?)

/-- Change the first scope of a kind. -/
def inScope (s : State) (which : Scope → Bool) (f : Scope → Scope) : State :=
  let rec into : List Scope → List Scope
    | [] => []
    | scope :: rest => if which scope then f scope :: rest else scope :: into rest
  { s with scopes := into s.scopes }

/-- Replace a variable where it stands, or add one to those of the shell. What is set for a
    command is replaced too. -/
def put (s : State) (v : Variable) : State :=
  let hasIt (scope : Scope) : Bool := (scope.find? v.name).isSome
  let s := s.inScope (fun scope => scope.kind == .command && hasIt scope) (·.put v)
  if s.scopes.any fun scope => scope.kind != .command && hasIt scope then
    s.inScope (fun scope => scope.kind != .command && hasIt scope) (·.put v)
  else s.inScope (·.kind == .shell) (·.put v)

/-- Replace or add a variable of the function that is being run, or of the shell. -/
def putLocal (s : State) (v : Variable) : State := s.inScope (·.kind != .command) (·.put v)

/-- Replace or add a variable of the shell. -/
def putGlobal (s : State) (v : Variable) : State := s.inScope (·.kind == .shell) (·.put v)

/-- Whether a function is being run. -/
def isInFunction (s : State) : Bool := s.scopes.any (·.kind == .function)

/-- Take a variable away: one of the function that is being run stays, but has no value. -/
def drop (s : State) (name : String) : State :=
  let hasIt (scope : Scope) : Bool := (scope.find? name).isSome
  match s.scopes.find? hasIt with
  | some scope =>
    let isInner := scope.kind == .function &&
      ((s.scopes.find? (·.kind == .function)).any hasIt)
    if isInner then s.inScope hasIt (·.put (Variable.plain name .nothing))
    else s.inScope hasIt (·.drop name)
  | none => s

/-- All variables that can be seen, those of inner scopes first. -/
def visible (s : State) : List Variable :=
  let all := s.scopes.flatMap fun scope =>
    let groups := if scope.kind = .shell then Content.groups else 4
    Content.ordered groups (·.name) scope.held
  all.foldr (fun v vs => v :: vs.filter (·.name != v.name)) []

/-- The variables that are handed on. -/
def environment (s : State) : List (String × String) :=
  s.visible.filterMap fun v =>
    match v.exported, v.content with
    | true, .text value => some (v.name, value)
    | _, _ => none

/-- The process as other programs are called by it. -/
def caller (s : State) : Process := { s.process with environment := s.environment }

/-- The characters that separate fields. -/
def separators (s : State) : List Char :=
  match s.text? "IFS" with
  | some text => text.toList
  | none => [' ', '\t', '\n']

/-- The function of a name. -/
def function? (s : State) (name : String) : Option Function :=
  s.functions.find? (·.name == name)

/-- The file that is told where something goes wrong. -/
def complainer (s : State) : String :=
  match s.frames.head? with
  | some f => if f.source = "" then s.name else f.source
  | none => s.name

/-- Whether a function or separate process takes over what is done about something. -/
def inherits (s : State) (trap : Nat) : Bool :=
  if trap = failureTrap then s.has "errtrace"
  else (trap = debugTrap || trap = returnTrap) && s.has "functrace"

/-- A process that is not joined to what works beside the shell. -/
def alone (s : State) (p : Process) : Process :=
  if s.partners.isEmpty then p
  else
    let isJoint (d : Nat × Nat) : Bool := s.partners.any fun q => d.1 = q.output || d.1 = q.input
    { p with descriptors := p.descriptors.filter (!isJoint ·) }

/-- What a separate process starts with. -/
def separate (s : State) (p : Process) : State :=
  { s with
    process := p
    traps := s.traps.filter fun t => t.2 == "" || s.inherits t.1
    inheritedTraps := if s.inheritedTraps.isEmpty then s.traps else s.inheritedTraps
    loops := 0
    subshells := s.subshells + 1
    inheritedJobs := if s.jobs.isEmpty then s.inheritedJobs else s.jobs
    jobs := [] }

end State

namespace Step

/-- Do something that only concerns the system. -/
def perform {α : Type} (a : Act α) : Step α := liftM a

/-- Do something with the process of the shell and what it has started. -/
def atWork {α : Type} (a : AtWork α) : Step α := do
  let (a, w) ← perform (a.run (← get).toWorkplace)
  modify fun s => { s with toWorkplace := w }
  return a

/-- Complain in the name of the shell. -/
def complain (text : String) : Step Unit := do
  let s ← get
  let command := (s.command.map (· ++ ": ")).getD ""
  perform (s.process.complain (s.complainer ++ ": line " ++ toString s.line ++ ": " ++ command ++ text))

/-- Complain in the name of the shell, whichever command is being run. -/
def complainPlainly (text : String) : Step Unit := do
  let s ← get
  set { s with command := none }
  complain text
  modify fun after => { after with command := s.command }

/-- Complain, and give up the line of commands. -/
def discard {α : Type} (text : String) : Step α := do
  complain text
  throw (.discard 1)

/-- Complain, and end the shell. -/
def fatal {α : Type} (text : String) (status : Nat) : Step α := do
  complain text
  throw (.exit status)

/-- Write byte text to the output. -/
def say (text : String) : Step Unit := do
  if text ≠ "" then
    match ← perform ((← get).process.write 1 text) with
    | .ok () => return
    | .error reason => modify fun s => { s with lost := some reason }

/-- Do something, and then something else whatever came of it. -/
def anyway {α : Type} (r : Step α) (after : Step Unit) : Step α := do
  let a ← tryCatch r fun j => do
    after
    throw j
  after
  return a

/-- Do something with more variables, which are gone afterwards. -/
def withScope {α : Type} (scope : Scope) (r : Step α) : Step α := do
  modify fun s => { s with scopes := scope :: s.scopes }
  anyway r (modify fun s => { s with scopes := s.scopes.drop 1 })

/-- Do something in the name of a command. -/
def named {α : Type} (command : Option String) (r : Step α) : Step α := do
  let before := (← get).command
  modify fun s => { s with command }
  anyway r (modify fun s => { s with command := before })

/-- The signals that the process has provided for and that were sent to it. -/
def arrived : Step (List Nat) := atWork Workplace.arrived

/-- Let the system know for which signals the shell provides. The signal to quit does nothing
    to a shell, but to the parts of it that are processes of their own. -/
def provide : Step Unit := do
  atWork Workplace.provide
  let s ← get
  if s.process.number = s.root then
    perform (modify (·.update s.root fun st => { st with caught := 3 :: st.caught }))

/-- Change the process of the shell, as far as the system knows it. -/
def changeProcess (f : Process → Process) : Step Unit := atWork (Workplace.changeProcess f)

/-- Take note of the processes that have ended. -/
def reap : Step Unit := atWork (Workplace.reap System.turnLimit)

/-- Wait for the end of a process that the shell has started. -/
def await (child : Nat) : Step ExitStatus := atWork (Workplace.await child)

/-- Wait for the end of processes that the shell has started, and do something about each
    one as it ends; what came of that is returned by process. The first list bounds how
    many there are. -/
def awaitAll {α : Type} (settle : ExitStatus → Step α) :
    List Nat → List Nat → Step (List (Nat × α))
  | [], _ | _, [] => return []
  | _ :: bound, children => do
    let (number, how) ← atWork (Workplace.awaitWithin children System.turnLimit)
    let a ← settle how
    return (number, a) :: (← awaitAll settle bound (children.erase number))

end Step

end CompileTree.Shell.Extended
