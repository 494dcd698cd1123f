import CompileTree.Shell.Script.Reader
import CompileTree.Shell.Workplace

/-! # Sessions

What a shell knows while it runs commands: its variables, functions, options and
traps, the jobs it has started and how the last command ended. A step of a session
may change all of it, and may leave the commands that are being run.
-/

namespace CompileTree.Shell

open Files Script Text

/-- A variable, which may have been declared without a value. -/
structure Variable where
  name : String
  value : Option String
  exported : Bool
  fixed : Bool
  deriving Repr

/-- What a shell knows while it runs commands. -/
structure Session extends Workplace where
  arguments : List String
  values : List Variable
  functions : List (String × Statement)
  /-- The words that are replaced by texts where commands are read. -/
  aliases : List (String × String)
  documents : List (Nat × Word)
  nextDocument : Nat
  /-- The letters of the options that are on. -/
  options : List Char
  /-- How the last command in a word ended. -/
  substituted : Nat
  /-- The line up to which the script was read. -/
  reached : Nat
  /-- The command of the language that is being run. -/
  command : Option String
  /-- How many loops are being run. -/
  loops : Nat
  /-- How many functions are being run. -/
  calls : Nat
  /-- What variables were before functions made them their own, with what stays of
      each function that is being run. -/
  saved : List (List (String × Option Variable))
  /-- The path of the working directory as it was entered. -/
  directory : String
  /-- How many characters were read of the argument at which options are being read. -/
  optionOffset : Nat
  /-- Whether something that was to be written was lost. -/
  lost : Bool

/-- Why the commands that are being run are left. -/
inductive Jump where
  /-- The shell ends. -/
  | exit (status : Nat)
  /-- A failure, which ends the shell unless a command of the language is to blame. -/
  | fault (status : Nat)
  /-- The process has ended. -/
  | ended (status : ExitStatus)
  /-- A function or script returns. -/
  | back (status : Nat)
  /-- A number of loops is left. -/
  | leave (loops : Nat)
  /-- A number of loops less one is left, and the next one goes on. -/
  | again (loops : Nat)

/-- A step of a session. -/
abbrev Run := ExceptT Jump (StateT Session Act)

namespace Variable

/-- The order in which names are listed. -/
def rankOf (name : String) : Nat :=
  ((name.toList.map Char.toNat).foldl (· + ·) (16 * (name.toList.headD '\x00').toNat)) % 39

/-- The order in which variables are handed on. -/
def rank (v : Variable) : Nat := rankOf v.name

end Variable

namespace Session

/-- The variable of a name. -/
def find? (s : Session) (name : String) : Option Variable :=
  s.values.find? (·.name == name)

/-- The value of a variable. -/
def value? (s : Session) (name : String) : Option String :=
  (s.find? name).bind (·.value)

/-- Replace a variable, or add one. -/
def put (s : Session) (v : Variable) : Session :=
  let rec into : List Variable → List Variable
    | [] => [v]
    | w :: rest => if w.name == v.name then v :: rest else w :: into rest
  { s with values := into s.values }

/-- Take a variable away. -/
def drop (s : Session) (name : String) : Session :=
  { s with values := s.values.filter (·.name != name) }

/-- The variables that are handed on. -/
def environment (s : Session) : List (String × String) :=
  let exported := s.values.filter (·.exported)
  ((List.range 39).flatMap fun n => exported.filter (·.rank == n)).filterMap fun v =>
    v.value.map (v.name, ·)

/-- The process as other programs are called by it. -/
def caller (s : Session) : Process := { s.process with environment := s.environment }

/-- Whether an option is on. -/
def has (s : Session) (option : Char) : Bool := s.options.contains option

/-- The characters that separate fields. -/
def separators (s : Session) : List Char :=
  match s.value? "IFS" with
  | some text => text.toList
  | none => [' ', '\t', '\n']

/-- What a separate process starts with. -/
def separate (s : Session) (p : Process) : Session :=
  { s with
    process := p
    traps := s.traps.filter fun t => t.1 != 0 && t.2 == ""
    loops := 0
    jobs := [] }

end Session

namespace Run

/-- Do something that only concerns the system. -/
def perform {α : Type} (a : Act α) : Run α := liftM a

/-- Complain in the name of the shell. -/
def complain (text : String) : Run Unit := do
  let s ← get
  let command := match s.command with
    | some c => c ++ ": "
    | none => ""
  perform (s.process.complain (s.name ++ ": " ++ toString s.line ++ ": " ++ command ++ text))

/-- Complain, and leave what is being run. -/
def fault {α : Type} (text : String) (status : Nat) : Run α := do
  complain text
  modify fun s => { s with status }
  throw (.fault status)

/-- Write byte text to the output. -/
def say (text : String) : Run Unit := do
  if text ≠ "" then
    match ← perform ((← get).process.write 1 text) with
    | .ok () => return
    | .error _ => modify fun s => { s with lost := true }

/-- The value of a variable. -/
def value? (name : String) : Run (Option String) := return (← get).value? name

/-- Give a variable a value. -/
def assign (name value : String) (exported : Bool) : Run Unit := do
  let s ← get
  if !isName name.toList then fault (name ++ ": bad variable name") 2
  let old := (s.find? name).getD ⟨name, none, false, false⟩
  if old.fixed then fault (name ++ ": is read only") 2
  let v := { old with value := some value, exported := old.exported || exported || s.has 'a' }
  set { s.put v with optionOffset := if name = "OPTIND" then 0 else s.optionOffset }

/-- Keep what a variable is now, to be brought back when the function returns. -/
def save (name : String) : Run Unit :=
  modify fun s =>
    match s.saved with
    | top :: rest =>
      if top.any (·.1 == name) then s
      else { s with saved := ((name, s.find? name) :: top) :: rest }
    | [] => s

/-- Bring back the variables that were kept since the matching start. -/
def restore : Run Unit :=
  modify fun s =>
    match s.saved with
    | top :: rest =>
      top.foldl (fun s (name, old) =>
        match old with
        | some v => s.put v
        | none => s.drop name) { s with saved := rest }
    | [] => s

/-- Do something, and then something else whatever came of it. -/
def anyway {α : Type} (r : Run α) (after : Run Unit) : Run α := do
  let a ← tryCatch r fun j => do
    after
    throw j
  after
  return a

/-- Do something with variables that are brought back afterwards. -/
def withSaved {α : Type} (r : Run α) : Run α := do
  modify fun s => { s with saved := [] :: s.saved }
  anyway r restore

/-- Do something with the process of the shell and what it has started. -/
def atWork {α : Type} (a : AtWork α) : Run α := do
  let (a, w) ← perform (a.run (← get).toWorkplace)
  modify fun s => { s with toWorkplace := w }
  return a

/-- The signals that the process has provided for and that were sent to it. -/
def arrived : Run (List Nat) := atWork Workplace.arrived

/-- Let the system know for which signals the shell provides. -/
def provide : Run Unit := atWork Workplace.provide

/-- Change the process of the shell, as far as the system knows it. -/
def changeProcess (f : Process → Process) : Run Unit := atWork (Workplace.changeProcess f)

/-- Take note of the processes that have ended; `fuel` bounds their number. -/
def reap (fuel : Nat) : Run Unit := atWork (Workplace.reap fuel)

/-- Forget the jobs that have ended and were waited for. -/
def tidyJobs : Run Unit := atWork Workplace.tidyJobs

/-- Wait for the end of a process that the shell has started. -/
def await (child : Nat) : Run ExitStatus := atWork (Workplace.await child)

/-- Wait for the end of processes that the shell has started, and do something about each
    one as it ends; what came of that is returned by process. The first list bounds how
    many there are. -/
def awaitAll {α : Type} (settle : ExitStatus → Run α) :
    List Nat → List Nat → Run (List (Nat × α))
  | [], _ | _, [] => return []
  | _ :: bound, children => do
    let (number, how) ← atWork (Workplace.awaitWithin children System.turnLimit)
    let a ← settle how
    return (number, a) :: (← awaitAll settle bound (children.erase number))

end Run

end CompileTree.Shell
