import CompileTree.Shell.Builtin.Flow
import CompileTree.Shell.Extended.Builtin.Arguments

/-! # Commands for signals and jobs

Signals are provided for and sent, and jobs are listed, waited for and let go.
-/

namespace CompileTree.Shell.Extended.Builtin

open Files Step

/-- What is no signal but may be provided for like one. -/
def conditions : List (String × Nat) := [
  ("EXIT", 0), ("DEBUG", debugTrap), ("ERR", failureTrap), ("RETURN", returnTrap)]

/-- A name of a signal without the letters that all of them start with. -/
def shortName (text : String) : String :=
  let upper := text.toUpper
  if upper.startsWith "SIG" then ((upper.drop 3).copy) else upper

/-- The signal that a text names, by name or by number. -/
def signal? (text : String) : Option Nat := Shell.Builtin.signal? (shortName text) 1

/-- What a text names that may be provided for. -/
def provided? (text : String) : Option Nat :=
  if text = "0" then some 0
  else (conditions.lookup text.toUpper).or ((signal? text).filter (0 < ·))

/-- What is provided for, by name. -/
def providedName (n : Nat) : String :=
  match conditions.find? (·.2 == n) with
  | some (name, _) => name
  | none => "SIG" ++ Shell.Builtin.signalName n

/-- All signals in columns. -/
def signalTable : String :=
  let numbers := ((List.range 64).map (· + 1)).filter fun n => n ∉ [32, 33]
  let name (n : Nat) : String := if n = 16 then "STKFLT" else Shell.Builtin.signalName n
  let cells := numbers.zipIdx.map fun (n, i) =>
    (if n < 10 then " " else "") ++ toString n ++ ") SIG" ++ name n ++
      (if i % 5 = 4 then "\n" else "\t") ++ (if i + 1 = numbers.length then "\n" else "")
  String.join cells

/-- Provide for signals, or list what is provided. -/
def trap : Action := fun _ arguments =>
  withOptions ['l', 'p'] [] arguments fun os rest => do
    if has os 'l' then
      say signalTable
      return 0
    match has os 'p', rest with
    | true, rest => list rest
    | false, [] => list []
    | false, first :: others =>
      let isNumber := !first.isEmpty && first.toList.all Char.isDigit && (provided? first).isSome
      let isAlone := others.isEmpty && !first.isEmpty && first ≠ "-" && (provided? first).isSome
      if isNumber || isAlone then setAll none 0 rest
      else if others.isEmpty then usage
      else setAll (if first = "-" then none else some first) 0 others
where
  list (names : List String) : Step Nat := do
    let s ← get
    let traps := if s.inheritedTraps.isEmpty then s.traps else s.inheritedTraps
    let traps := traps.mergeSort fun a b => a.1 ≤ b.1
    let show_ (n : Nat) (action : String) : Step Unit :=
      say ("trap -- " ++ Quoting.apostrophes action ++ " " ++ providedName n ++ "\n")
    if names.isEmpty then
      for (n, action) in traps do show_ n action
      return 0
    let mut status := 0
    for name in names do
      match provided? name with
      | none => status ← refuse (name ++ ": invalid signal specification")
      | some n =>
        match traps.lookup n with
        | some action => show_ n action
        | none => pure ()
    return status
  setAll (action : Option String) (status : Nat) : List String → Step Nat
    | [] => do
      provide
      return status
    | name :: rest => do
      match provided? name with
      | none =>
        let status ← refuse (name ++ ": invalid signal specification")
        setAll action status rest
      | some n =>
        modify fun s =>
          let others := s.traps.filter (·.1 != n)
          { s with traps := action.elim others (fun a => (n, a) :: others), inheritedTraps := [] }
        setAll action status rest

/-- The status for a signal that a text names for which there is none. -/
def unknownSignal (text : String) : Step Nat :=
  refuse (text ++ ": invalid signal specification")

/-- The job that a text names by a percent sign: by its number, by the start of its command
    or by its age. -/
def job? (text : String) : Step (Option Job) := do
  let s ← get
  let listed := s.jobs.filter (0 < ·.place)
  let found := ({ s.toWorkplace with jobs := listed }).job? text
  if found.isSome then return found
  let start := (text.drop 1).copy
  return listed.find? fun j =>
    (j.processes.head?.bind fun (n, _) => s.titles.lookup n).any (·.startsWith start)

/-- The number that a text spells. -/
def process? (text : String) : Option Int :=
  match text.toList with
  | '-' :: cs | cs =>
    if !cs.isEmpty && cs.all Char.isDigit then integer? text else none

/-- Send a signal to what the arguments name. -/
def send (n : Nat) : Nat → List String → Step Nat
  | status, [] => return status
  | _, target :: rest => do
    let number? : Option Int ← match target.toList with
      | '%' :: _ => do pure ((← job? target).map fun j => ((j.processes.headD (0, none)).1 : Int))
      | _ => pure (process? target)
    match number? with
    | none =>
      let _ ← refuse (if target.startsWith "%" then target ++ ": no such job"
        else target ++ ": arguments must be process or job IDs")
      send n 1 rest
    | some number =>
      if ← perform ((← get).process.signal n number) then send n 0 rest
      else
        let _ ← refuse ("(" ++ toString number ++ ") - " ++ "No such process")
        send n 1 rest

/-- Write the names of signals, or their numbers. -/
def listSignals (names : List String) : Step Nat := do
  if names.isEmpty then
    say signalTable
    return 0
  let mut status := 0
  for name in names do
    match integer? name with
    | some n =>
      let n := if 128 < n then n - 128 else n
      if 0 ≤ n ∧ n < 65 then say (Shell.Builtin.signalName n.toNat ++ "\n")
      else status ← unknownSignal name
    | none =>
      match provided? name with
      | some n => say (toString n ++ "\n")
      | none => status ← unknownSignal name
  return status

/-- Send a signal to processes, or list the signals. -/
def kill : Action := fun _ arguments => do
  match arguments with
  | [] => usage
  | "-l" :: names | "-L" :: names => listSignals names
  | first :: rest =>
    match first.toList, rest with
    | ['-', 's'], [] | ['-', 'n'], [] => refuse (first ++ ": option requires an argument")
    | ['-', 's'], name :: targets | ['-', 'n'], name :: targets => withSignal name targets
    | ['-', '-'], targets => sendAll Signal.terminate targets
    | '-' :: cs, targets => withSignal (String.ofList cs) targets
    | _, _ => sendAll Signal.terminate arguments
where
  sendAll (n : Nat) (targets : List String) : Step Nat :=
    let targets := match targets with
      | "--" :: rest => rest
      | all => all
    if targets.isEmpty then usage else send n 0 targets
  withSignal (name : String) (targets : List String) : Step Nat := do
    match if name = "0" ∨ name.toUpper = "EXIT" then some 0 else signal? name with
    | some n => sendAll n targets
    | none => unknownSignal name

/-- Wait until a job has ended; nothing is returned if a signal arrives before. -/
def awaitJob (j : Job) : Step (Option ExitStatus) := do
  let ended (w : Workplace) : Option ExitStatus :=
    (w.jobs.find? (·.number == j.number)).bind (·.ended)
  if ← atWork (Workplace.awaitUntil fun w => (ended w).isSome) then
    atWork (Workplace.noteWaited (·.number == j.number))
    let how := ended (← get).toWorkplace
    match (← get).jobs.find? (·.number == j.number) with
    | some j => tellEnd false j.ended (← progress j)
    | none => pure ()
    return some (how.getD (.exited 127))
  else return none

/-- Wait for jobs one after the other; nothing is waited for any more if a signal arrives. The
    job that was started last stays listed if it has ended before it is waited for. -/
def waitForAll : List Nat → Step Bool
  | [] => return true
  | number :: rest => do
    let isOver (w : Workplace) : Bool :=
      (w.jobs.find? (·.number == number)).all (·.ended.isSome)
    let s ← get
    let wasOver := isOver s.toWorkplace
    if !(← atWork (Workplace.awaitUntil isOver)) then return false
    if !(wasOver && s.lastJob == some number) then
      atWork (Workplace.noteWaited (·.number == number))
    waitForAll rest

/-- Wait for jobs. -/
def wait : Action := fun _ arguments =>
  withOptions ['f', 'n'] ['p'] arguments fun os rest => do
    let store (number : Nat) : Step Unit :=
      match valueOf? os 'p' with
      | some name => Values.setText name (toString number)
      | none => return
    if has os 'n' then
      reap
      let which (j : Job) : Bool :=
        rest.isEmpty || rest.contains (toString j.number) || rest.contains ("%" ++ toString j.place)
      let jobs := ((← get).jobs.filter fun j => which j && !j.waited)
      if jobs.isEmpty then return 127
      let isOne (w : Workplace) : Option Job :=
        w.jobs.find? fun j => jobs.any (·.number == j.number) && j.ended.isSome
      if ← atWork (Workplace.awaitUntil fun w => (isOne w).isSome) then
        match isOne (← get).toWorkplace with
        | some j =>
          store j.number
          let status := (j.ended.map statusOf).getD 127
          let _ ← awaitJob j
          forget (·.number == j.number)
          return status
        | none => return 127
      else atWork Workplace.interruption
    else if rest.isEmpty then
      reap
      if ← waitForAll ((← get).jobs.map (·.number)) then
        notices
        forget (·.waited)
        modify fun s => { s with past := [] }
        return 0
      else atWork Workplace.interruption
    else waitFor store 0 rest
where
  waitFor (store : Nat → Step Unit) (status : Nat) : List String → Step Nat
    | [] => return status
    | name :: rest => do
      match name.toList with
      | '%' :: _ =>
        match ← job? name with
        | some j => one store rest j
        | none =>
          let _ ← refuse (name ++ ": no such job")
          waitFor store 127 rest
      | cs =>
        if cs.isEmpty || !cs.all Char.isDigit then
          let status ← refuse ("\x60" ++ name ++ "': not a pid or valid job spec")
          waitFor store status rest
        else
          let number := Script.Reader.digitsValue cs
          match (← get).jobs.find? fun j => j.processes.any (·.1 == number) with
          | some j => one store rest j
          | none =>
            match (← get).past.lookup number with
            | some how =>
              store number
              waitFor store (statusOf how) rest
            | none =>
              let _ ← refuse ("pid " ++ name ++ " is not a child of this shell")
              waitFor store 127 rest
  one (store : Nat → Step Unit) (rest : List String) (j : Job) : Step Nat := do
    match ← awaitJob j with
    | some how =>
      store j.number
      forget (·.number == j.number)
      waitFor store (statusOf how) rest
    | none => atWork Workplace.interruption

/-- The jobs that are listed and that arguments name, or all; those that are not there are
    told of. -/
def jobsNamed (names : List String) : Step (List Job × Nat) := do
  if names.isEmpty then return ((← get).jobs.filter (0 < ·.place), 0)
  let mut jobs := []
  let mut status := 0
  for name in names do
    let found ← match name.toList with
      | '%' :: _ => job? name
      | _ => do pure ((← get).jobs.find? fun j => j.processes.any fun (n, _) => toString n == name)
    match found with
    | some j => jobs := jobs ++ [j]
    | none => status ← refuse (name ++ ": no such job")
  return (jobs, status)

/-- List the jobs; those that have ended are forgotten. -/
def listJobs : Action := fun _ arguments =>
  withOptions ['l', 'n', 'p', 'r', 's'] [] arguments fun os rest => do
    reap
    let areOthers := (← get).jobs.isEmpty
    if areOthers then modify fun s => { s with jobs := s.inheritedJobs }
    let foremost := (← get).foremost
    let (jobs, status) ← jobsNamed rest
    for j in jobs do
      let isRunning := j.ended.isNone
      if (has os 'r' && !isRunning) || has os 's' then continue
      let ps ← progress j
      let number := toString ((j.processes.headD (0, none)).1)
      if has os 'p' then say (number ++ "\n")
      else
        let mark := match foremost.findIdx? (· == j.number) with
          | some 0 => "+"
          | some _ => "-"
          | none => " "
        let start := "[" ++ toString j.place ++ "]" ++ mark ++ " "
        if has os 'l' then say (start ++ Progress.lines ps ++ (if isRunning then " &" else "") ++ "\n")
        else say (start ++ " " ++ Progress.oneLine ps ++ "\n")
    if areOthers then modify fun s => { s with jobs := [] }
    forget fun j => jobs.any (·.number == j.number)
    return status

/-- Let jobs go. -/
def disown : Action := fun _ arguments =>
  withOptions ['a', 'h', 'r'] [] arguments fun os rest => do
    let current := ((← get).jobs.filter (0 < ·.place)).getLast?
    if rest.isEmpty && !has os 'a' && !has os 'r' then
      match current with
      | none => refuse "current: no such job"
      | some j => letGo os [j] 0
    else
      let (jobs, status) ← jobsNamed rest
      letGo os jobs status
where
  letGo (os : List (Char × String)) (jobs : List Job) (status : Nat) : Step Nat := do
    let isMeant (j : Job) : Bool := jobs.any (·.number == j.number)
    if !has os 'h' then
      modify fun s => { s with jobs := s.jobs.filter (!isMeant ·) }
    return status

/-- There is no control over jobs. -/
def noControl : Action := fun _ _ => refuse "no job control"

end CompileTree.Shell.Extended.Builtin
