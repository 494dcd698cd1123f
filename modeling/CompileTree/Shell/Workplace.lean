import CompileTree.Shell.Process
import CompileTree.Shell.Signal

/-! # Workplaces

What a shell has to do with processes: its own one, those that it has started and has
to wait for, and what it does about signals.
-/

namespace CompileTree.Shell

/-- Commands in the background. -/
structure Job where
  /-- The number by which the shell knows them. -/
  place : Nat
  /-- Their processes, and how those have ended that have. -/
  processes : List (Nat × Option ExitStatus)
  /-- Whether the shell has waited for them. -/
  waited : Bool
  deriving DecidableEq, Repr

namespace Job

/-- The number of the last process. -/
def number (j : Job) : Nat := (j.processes.getLast?.map (·.1)).getD 0

/-- How the last process has ended, if all have. -/
def ended (j : Job) : Option ExitStatus :=
  if j.processes.all (·.2.isSome) then j.processes.getLast?.bind (·.2) else none

/-- Note how a process has ended. -/
def note (j : Job) (process : Nat) (how : ExitStatus) : Job :=
  { j with processes := j.processes.map fun p => if p.1 = process then (p.1, some how) else p }

end Job

/-- How a command is run. -/
structure Manner where
  /-- Whether something depends on its failure, which ends no shell then. -/
  tested : Bool
  /-- Whether the process has nothing else to do afterwards. -/
  last : Bool
  deriving DecidableEq, Repr

/-- A command that is run for its own sake. -/
def Manner.plain : Manner := ⟨false, false⟩

/-- What is left of a mode where something else follows. -/
def Manner.notLast (m : Manner) : Manner := { m with last := false }

/-- Where a shell works. -/
structure Workplace where
  /-- What the shell was called. -/
  name : String
  /-- The process of the shell; it may have started other ones that run parts of the script. -/
  root : Nat
  process : Process
  /-- What is done when signals arrive, and under zero when the shell ends. -/
  traps : List (Nat × String)
  /-- The signals that were ignored when the shell started, which it cannot provide for. -/
  ignored : List Nat
  jobs : List Job
  lastJob : Option Nat
  /-- How the last command ended. -/
  status : Nat
  /-- The line of the command that is being run. -/
  line : Nat

/-- Something that a shell does with processes. -/
abbrev AtWork := StateT Workplace Act

namespace Workplace

/-- Do something that only concerns the system. -/
def act {α : Type} (a : Act α) : AtWork α := StateT.lift a

/-- The signals that the process has provided for and that were sent to it. -/
def arrived : AtWork (List Nat) := do
  let number := (← get).process.number
  match (← act get).standing? number with
  | some st =>
    let mine := st.pending.filter st.caught.contains
    if mine.isEmpty then return []
    act (modify (·.update number fun st =>
      { st with pending := st.pending.filter (!mine.contains ·) }))
    return mine.mergeSort
  | none => return []

/-- Let the system know for which signals the shell provides. -/
def provide : AtWork Unit := do
  let s ← get
  let caught := (s.traps.filter (·.2 != "")).map (·.1)
  let ignored := (s.traps.filter (·.2 == "")).map (·.1)
  act (modify (·.update s.process.number fun st =>
    { st with caught := caught.filter (!s.ignored.contains ·), ignored := s.ignored ++ ignored }))

/-- Change the process of the shell, as far as the system knows it. -/
def changeProcess (f : Process → Process) : AtWork Unit := do
  modify fun s => { s with process := f s.process }
  act (← get).process.hold

/-- Note how a process of a job has ended. -/
def noteEnd (process : Nat) (how : ExitStatus) : AtWork Unit :=
  modify fun s => { s with jobs := s.jobs.map (·.note process how) }

/-- Take note of the processes that have ended; `fuel` bounds their number. -/
def reap : Nat → AtWork Unit
  | 0 => return
  | fuel + 1 => do
    match (← act get).endedChild? (← get).process.number fun _ => true with
    | some (number, how) =>
      act (modify (·.forget number))
      noteEnd number how
      reap fuel
    | none => return

/-- Forget the jobs that have ended and were waited for. -/
def tidyJobs : AtWork Unit :=
  modify fun s =>
    if s.jobs.isEmpty then s
    else { s with jobs := s.jobs.filter fun j => !(j.waited && j.ended.isSome) }

/-- Wait for the end of one of some processes that the shell has started; `fuel` bounds the
    number of others that end before it. -/
def awaitWithin (children : List Nat) : Nat → AtWork (Nat × ExitStatus)
  | 0 => return (children.headD 0, .exited 127)
  | fuel + 1 => do
    let me := (← get).process.number
    let isKnown (s : System) : Bool := children.any fun n => (s.standing? n).isSome
    act (Act.waitUntil fun s => (s.endedChild? me fun _ => true).isSome || !isKnown s)
    match (← act get).endedChild? me fun _ => true with
    | some (number, how) =>
      act (modify (·.forget number))
      if children.contains number then return (number, how)
      noteEnd number how
      awaitWithin children fuel
    | none => return (children.headD 0, .exited 127)

/-- Wait for the end of a process that the shell has started. -/
def await (child : Nat) : AtWork ExitStatus := do
  return (← awaitWithin [child] System.turnLimit).2

/-- Wait until something holds, or a signal arrives; whether it holds is returned. `fuel`
    bounds the number of processes that end. -/
def awaitUntilWithin (isDone : Workplace → Bool) : Nat → AtWork Bool
  | 0 => return true
  | fuel + 1 => do
    reap System.turnLimit
    let s ← get
    if isDone s then return true
    let me := s.process.number
    let everyone (_ : Nat) : Bool := true
    let interrupted (s : System) : Bool :=
      (s.standing? me).any fun st => st.pending.any st.caught.contains
    act (Act.waitUntil fun s =>
      (s.endedChild? me everyone).isSome || interrupted s || !s.hasChild me everyone)
    let sys ← act get
    if (sys.endedChild? me everyone).isSome then awaitUntilWithin isDone fuel
    else return !interrupted sys

/-- Wait until something holds, or a signal arrives; whether it holds is returned. -/
def awaitUntil (isDone : Workplace → Bool) : AtWork Bool :=
  awaitUntilWithin isDone System.turnLimit

/-- The status for the first signal that has arrived. -/
def interruption : AtWork Nat := do
  let st := (← act get).standing? (← get).process.number
  return 128 + ((st.bind fun st => (st.pending.filter st.caught.contains).mergeSort.head?).getD 0)

/-- Note that jobs were waited for. -/
def noteWaited (which : Job → Bool) : AtWork Unit :=
  let marked (j : Job) : Job := if which j then { j with waited := true } else j
  modify fun s => { s with jobs := s.jobs.map marked }

/-- The job that a text names by a percent sign: by its number, or the last one or the one
    before it. -/
def job? (w : Workplace) (text : String) : Option Job :=
  match text.toList with
  | ['%'] | ['%', '+'] | ['%', '%'] => w.jobs.getLast?
  | ['%', '-'] => w.jobs.dropLast.getLast?
  | '%' :: cs => w.jobs.find? (·.place == Nat.ofDigitChars 10 cs 0)
  | _ => none

end Workplace

end CompileTree.Shell
