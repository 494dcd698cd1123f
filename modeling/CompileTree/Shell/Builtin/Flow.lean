import CompileTree.Shell.Builtin.Arguments
import CompileTree.Shell.Engine
import CompileTree.Shell.Program

/-! # Commands for the course of a script

Texts and files are run as commands, loops, functions and shells are left, signals
are sent and provided for, and jobs are waited for.
-/

/-! ## Calling programs

Where a shell finds the programs that its commands name, and how they run. A file
that is to be run and has no known format is taken for a script of the shell.
-/

namespace CompileTree.Shell.Call

open Files Run

/-- Where the shell stands. -/
def shellPath : String := "/bin/sh"

/-- The native program that runs a file, with its arguments. -/
def runnerAt (t : Tree) (p : Process) (path : String) (arguments : List String) :
    Except Error (String × List String) :=
  match runner t p path arguments with
  | .error .badFormat => .ok ("sh", shellPath :: path :: arguments.drop 1)
  | r => r

/-- Whether a path leads to a file that may be run. -/
def mayRun (t : Tree) (p : Process) (path : String) : Bool :=
  (programAt t p.working path).toOption.isSome

/-- The paths at which a program is sought. -/
def candidates (searchPath : Option String) (name : String) : List String :=
  (searchPath.elim [] searchDirectories).map fun directory => (directory.join ⟨name⟩).text

/-- The path at which a program is found. -/
def pathOf? (t : Tree) (p : Process) (searchPath : Option String) (name : String) :
    Option String :=
  if '/' ∈ name.toList then if mayRun t p name then some name else none
  else (candidates searchPath name).find? (mayRun t p)

/-- Why a program cannot be called, and the status for that. -/
structure Obstacle where
  error : Error
  status : Nat

/-- The status for an error that keeps a program from running. -/
def statusFor : Error → Nat
  | .notFound | .notADirectory | .tooManyLinks | .nameTooLong => 127
  | _ => 126

/-- Whether an error says that nothing is there. -/
def isAbsence (e : Error) : Bool := e == .notFound || e == .notADirectory

/-- What the first path runs that runs anything; `worst` is what is told if none does. -/
def firstRunner (t : Tree) (p : Process) (arguments : List String) (worst : Error) :
    List String → Except Obstacle (String × List String)
  | [] => .error ⟨worst, statusFor worst⟩
  | path :: rest =>
    match runnerAt t p path arguments with
    | .ok found => .ok found
    | .error e => firstRunner t p arguments (if isAbsence e then worst else e) rest

/-- The native program that a command runs, with its arguments. -/
def find (t : Tree) (p : Process) (searchPath : Option String) (name : String)
    (arguments : List String) : Except Obstacle (String × List String) :=
  let arguments := name :: arguments
  if '/' ∈ name.toList then
    match runnerAt t p name arguments with
    | .ok found => .ok found
    | .error e => .error ⟨e, statusFor e⟩
  else
    let paths := candidates searchPath name
    if paths.any (mayRun t p) then
      firstRunner t p arguments .notFound (paths.dropWhile (!mayRun t p ·))
    else
      let denied := paths.any fun path =>
        (t.entry p.working true (Process.path path)).toOption.isSome
      .error ⟨if denied then .permissionDenied else .notFound, 127⟩

/-- What is told of a program that cannot be called. -/
def Obstacle.message (o : Obstacle) (name : String) : String :=
  name ++ ": " ++ Route.reason "not found" o.error

/-- Become another program. -/
def become (e : Engine) (name : String) (arguments : List String) : Run Nat := do
  let s ← get
  match find (← getThe System).files s.caller (s.value? "PATH") name arguments with
  | .ok (native, arguments) =>
    let how ← perform (e.call s.caller native arguments)
    throw (.ended how)
  | .error o =>
    complain (o.message name)
    throw (.exit o.status)

/-- Call another program, and wait for it. -/
def wait (e : Engine) (name : String) (arguments : List String) : Run Nat := do
  let s ← get
  match find (← getThe System).files s.caller (s.value? "PATH") name arguments with
  | .ok (native, arguments) =>
    tidyJobs
    let child ← perform s.caller.child
    perform (child.start (e.call child native arguments))
    settled (← await child.number)
  | .error o =>
    complain (o.message name)
    return o.status

end CompileTree.Shell.Call

namespace CompileTree.Shell.Builtin

open Files Script Run Text

/-- End the shell. -/
def exit : Action := fun _ arguments => do
  match arguments with
  | [] => throw (.exit (← get).status)
  | a :: _ => throw (.exit (← number a))

/-- Return from a function or script. -/
def back : Action := fun _ arguments => do
  match arguments with
  | [] => throw (.back (← get).status)
  | a :: _ => throw (.back (← number a))

/-- Leave loops in one of two ways. -/
def leaveLoops (jump : Nat → Jump) : Action := fun _ arguments => do
  let n ← match arguments with
    | [] => pure 1
    | a :: _ => do
      let n ← number a
      if n = 0 then fault ("Illegal number: " ++ a) 2 else pure n
  let loops := (← get).loops
  if loops = 0 then return 0 else throw (jump (min n loops))

/-- Run the words of the arguments as commands. -/
def evaluate (m : Manner) : Action := fun e arguments =>
  if arguments.isEmpty then return 0 else e.evaluate m.notLast (" ".intercalate arguments)

/-- Run a file as commands of this shell. -/
def source : Action := fun e arguments => do
  match ← noOptions arguments with
  | [] => return 0
  | name :: _ =>
    let s ← get
    let t := (← getThe System).files
    let isPlain (path : String) : Bool := t.isFile s.process.working (Process.path path)
    let path ←
      if '/' ∈ name.toList then pure name
      else match (Call.candidates (s.value? "PATH") name).find? isPlain with
        | some path => pure path
        | none => fault (name ++ ": not found") 2
    match ← perform (s.process.openFile path .read) with
    | .error reason => fault ("cannot open " ++ path ++ ": " ++ Route.reason "No such file" reason) 2
    | .ok index =>
      Run.anyway
        (do
          modify fun s => { s with command := some path }
          tryCatch (e.evaluateFile index) fun
            | .back n => return n
            | j => throw j)
        (modify fun after => { after with command := s.command })

/-- Become another program, or keep the redirections. -/
def become : Action := fun e arguments => do
  match arguments with
  | [] => return 0
  | name :: arguments => Call.become e name arguments

/-- The signal that a text names, by name or by number. -/
def signal? (text : String) (least : Nat) : Option Nat :=
  let cs := text.toList
  if !cs.isEmpty && cs.all Char.isDigit then
    let n := Reader.digitsValue cs
    if n < 65 then some n else none
  else if text.toUpper = "EXIT" ∧ least = 0 then some 0
  else (Signal.ofName? text).map (·.number)

/-- The name of a signal, or of the end of the shell. -/
def signalName (n : Nat) : String :=
  if n = 0 then "EXIT"
  else match Signal.ofNumber? n with
    | some s => s.name
    | none =>
      if n = 34 then "RTMIN"
      else if n = 64 then "RTMAX"
      else if 34 < n ∧ n < 50 then "RTMIN+" ++ toString (n - 34)
      else if 50 ≤ n ∧ n < 64 then "RTMAX-" ++ toString (64 - n)
      else toString n

/-- Provide for signals, or list what is provided. -/
def trap : Action := fun _ arguments => do
  match ← noOptions arguments with
  | [] =>
    let ts := ((← get).traps).mergeSort fun a b => a.1 ≤ b.1
    for (n, action) in ts do
      say ("trap -- " ++ quoted action ++ " " ++ signalName n ++ "\n")
    return 0
  | first :: rest =>
    let isUnset := rest.isEmpty ||
      (!first.isEmpty && first.toList.all Char.isDigit && (signal? first 0).isSome)
    let action := if isUnset || first = "-" then none else some first
    let status ← setAll action (if isUnset then first :: rest else rest)
    provide
    return status
where
  setAll (action : Option String) : List String → Run Nat
    | [] => return 0
    | name :: rest => do
      match signal? name 0 with
      | none =>
        perform ((← get).process.complain ("trap: " ++ name ++ ": bad trap"))
        return 1
      | some n =>
        modify fun s =>
          let others := s.traps.filter (·.1 != n)
          { s with traps := match action with
            | some a => (n, a) :: others
            | none => others }
        setAll action rest

/-- The job that a text names by a percent sign, which has to be there. -/
def job (text : String) : Run Job := do
  match (← get).job? text with
  | some j => return j
  | none => fault ("No such job: " ++ text) 2

/-- Send a signal to processes, or list the signals. -/
def kill : Action := fun _ arguments => do
  match arguments with
  | [] => usage
  | first :: rest =>
    let direct := match first.toList with
      | '-' :: cs => signal? (String.ofList cs) 1
      | _ => none
    match direct with
    | some n => sendAll n rest
    | none =>
      if first.startsWith "-" then
        let (os, rest) ← options ['l'] ['s'] arguments
        let mut n := Signal.terminate
        for (letter, value) in os do
          if letter = 's' then
            match signal? value 1 with
            | some m => n := m
            | none => fault ("invalid signal number or name: " ++ value) 2
        if os.any (·.1 == 'l') then listNames rest else sendAll n rest
      else sendAll Signal.terminate arguments
where
  usage : Run Nat := fault
    ("Usage: kill [-s sigspec | -signum | -sigspec] [pid | job]... or\n" ++
      "kill -l [exitstatus]") 2
  listNames (rest : List String) : Run Nat := do
    match rest with
    | [] =>
      say "0\n"
      for n in List.range 64 do say (signalName (n + 1) ++ "\n")
      return 0
    | a :: _ =>
      let n ← number a
      let n := if 128 < n then n - 128 else n
      if 0 < n ∧ n < 65 then
        say (signalName n ++ "\n")
        return 0
      else fault ("invalid signal number or exit status: " ++ a) 2
  sendAll (n : Nat) (targets : List String) : Run Nat := do
    if targets.isEmpty then
      let _ ← usage
    let mut status := 0
    for t in targets do
      let target : Int ← match t.toList with
        | '-' :: cs => do pure (-(← number (String.ofList cs) : Int))
        | '%' :: _ => do pure (-(((← job t).processes.headD (0, none)).1 : Int))
        | _ => do pure (← number t : Int)
      let known ← perform ((← get).process.signal n target)
      if !known then
        complain "No such process\n"
        status := 1
    return status

/-- Wait for jobs. -/
def wait : Action := fun _ arguments => do
  match ← noOptions arguments with
  | [] =>
    if ← atWork (Workplace.awaitUntil fun w => w.jobs.all (·.ended.isSome)) then
      atWork (Workplace.noteWaited fun _ => true)
      return 0
    else atWork Workplace.interruption
  | names => waitFor 127 names
where
  waitFor (status : Nat) : List String → Run Nat
    | [] => return status
    | a :: rest => do
      let found ← match a.toList with
        | '%' :: _ => some <$> job a
        | _ => do
          let n ← number a
          pure ((← get).jobs.find? (·.number == n))
      match found with
      | none => waitFor 127 rest
      | some found =>
        let ended (w : Workplace) : Option ExitStatus :=
          (w.jobs.find? (·.place == found.place)).bind (·.ended)
        if ← atWork (Workplace.awaitUntil fun w => (ended w).isSome) then
          atWork (Workplace.noteWaited (·.place == found.place))
          waitFor (← settled ((ended (← get).toWorkplace).getD (.exited 127))) rest
        else atWork Workplace.interruption

/-- What is told of a job. -/
def stateOf (j : Job) : String :=
  match j.ended with
  | none => "Running"
  | some (.exited 0) => "Done"
  | some (.exited n) => "Done(" ++ toString n ++ ")"
  | some (.signaled n) => ((Signal.ofNumber? n).map (·.description)).getD "Unknown signal"

/-- List the jobs; those that have ended are forgotten. -/
def listJobs : Action := fun _ arguments => do
  let (os, _) ← options ['l', 'p'] [] arguments
  reap System.turnLimit
  let jobs := (← get).jobs
  for (j, n) in jobs.zipIdx 1 do
    if os.any (·.1 == 'p') then say (toString ((j.processes.headD (0, none)).1) ++ "\n")
    else
      let mark := if n = jobs.length then "+" else if n + 1 = jobs.length then "-" else " "
      let number := if os.any (·.1 == 'l') then toString ((j.processes.headD (0, none)).1) ++ " "
        else ""
      let start := "[" ++ toString j.place ++ "] " ++ mark ++ " " ++ number ++ stateOf j
      say (start ++ "".pushn ' ' (max 1 (33 - start.length)) ++ "\n")
  modify fun s => { s with jobs := s.jobs.filter (·.ended.isNone) }
  return 0

end CompileTree.Shell.Builtin
