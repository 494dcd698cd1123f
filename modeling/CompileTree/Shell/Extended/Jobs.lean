import CompileTree.Shell.Extended.Printing
import CompileTree.Shell.Extended.State

/-! # Jobs

What is told of processes that the shell has started: how they are listed, and that
signals have ended them.
-/

namespace CompileTree.Shell.Extended

open Step

/-- What the shell tells of a process. -/
structure Progress where
  number : Nat
  /-- How it ended, if it has. -/
  how : Option ExitStatus
  /-- The command that it runs. -/
  title : String
  deriving DecidableEq, Repr

namespace Progress

/-- What signals are called. -/
def signalText (n : Nat) : String :=
  match Signal.ofNumber? n with
  | some signal => signal.description
  | none => "Unknown signal " ++ toString n

/-- How far a process is, in words. -/
def stateText : Option ExitStatus → String
  | none => "Running"
  | some (.exited 0) => "Done"
  | some (.exited n) => "Exit " ++ toString n
  | some (.signaled n) => signalText n

/-- How wide the words are that tell how far a process is. -/
def stateWidth : Nat := 24

/-- Text with blanks up to a width behind it. -/
def filled (width : Nat) (text : String) : String := text ++ "".pushn ' ' (width - text.length)

/-- The number of a process in a column of its own. -/
def numberText (n : Nat) : String :=
  "".pushn ' ' (5 - (toString n).length) ++ toString n

/-- What is told of processes that feed each other, each on a line of its own. -/
def lines : List Progress → String
  | [] => ""
  | first :: others =>
    let following (p : Progress) : String :=
      let state := if p.how = first.how then "".pushn ' ' (stateWidth - 2)
        else filled stateWidth (stateText p.how)
      "\n     " ++ numberText p.number ++ " " ++ state ++ "| " ++ p.title
    numberText first.number ++ " " ++ filled stateWidth (stateText first.how) ++ first.title ++
      String.join (others.map following)

/-- What is told of processes that feed each other, on one line. -/
def oneLine (ps : List Progress) : String :=
  let isOver := ps.all (·.how.isSome)
  let state := stateText (if isOver then ps.getLast?.bind (·.how) else none)
  filled stateWidth state ++ " | ".intercalate (ps.map (·.title)) ++ (if isOver then "" else " &")

end Progress

/-- The status that stands for the end of a process. -/
def statusOf : ExitStatus → Nat
  | .exited n => n
  | .signaled n => 128 + n

namespace Step

/-- Tell of processes that feed each other if a signal has ended the one that counts;
    `isAwaited` tells whether they were waited for when they were started. -/
def tellEnd (isAwaited : Bool) (how : Option ExitStatus) (ps : List Progress) : Step Unit := do
  let s ← get
  if s.isSubstitution then return
  match how with
  | some (.signaled n) =>
    if n ∉ [2, 13, 15] && (s.traps.lookup n).isNone then
      named none (complain (Progress.lines ps))
    else if isAwaited && n ∉ [2, 13] then
      perform (s.process.complain (Progress.signalText n))
  | _ => return

/-- What is known of the processes of a job. -/
def progress (j : Job) : Step (List Progress) := do
  let titles := (← get).titles
  return j.processes.map fun (number, how) => ⟨number, how, (titles.lookup number).getD ""⟩

/-- The numbers of the listed jobs that have not ended, the last one first. -/
def running (jobs : List Job) : List Nat :=
  ((jobs.filter fun j => 0 < j.place && j.ended.isNone).map (·.number)).reverse

/-- Note that processes were started in the background. Those that are joined to a command
    are not listed and stand at no place. -/
def noteJob (isListed : Bool) (started : List (Nat × String)) : Step Unit :=
  modify fun s =>
    let places := s.jobs.map (·.place)
    let place := if isListed then places.foldl max 0 + 1 else 0
    let job : Job := ⟨place, started.map (·.1, none), false⟩
    { s with
      foremost := if isListed then job.number :: (running s.jobs).take 1 else s.foremost
      jobs := s.jobs ++ [job]
      lastJob := some job.number
      titles := started ++ s.titles }

/-- Forget jobs that have ended, but not how they did. -/
def forget (which : Job → Bool) : Step Unit :=
  modify fun s =>
    let isOver (j : Job) : Bool := which j && j.ended.isSome
    let ended := (s.jobs.filter isOver).flatMap fun j =>
      j.processes.filterMap fun (n, how) => how.map (n, ·)
    let jobs := s.jobs.filter (!isOver ·)
    let isGone (number : Nat) : Bool := !(jobs.any (·.number == number))
    { s with
      jobs, past := ended ++ s.past
      foremost := if s.foremost.any isGone then (running jobs).take 2 else s.foremost }

/-- Forget the processes that worked beside the shell and have ended, with what joined them
    to it. -/
def forgetPartners : Step Unit := do
  let s ← get
  if s.partners.isEmpty then return
  let isOver (q : Partner) : Bool := (s.jobs.find? (·.number == q.number)).all (·.ended.isSome)
  let (gone, left) := s.partners.partition isOver
  if !gone.isEmpty then
    modify fun s =>
      let names := gone.flatMap fun q => [q.name, q.name ++ "_PID"]
      { names.foldl State.drop s with partners := left }
    changeProcess fun p =>
      { p with descriptors := p.descriptors.filter fun d =>
          !(gone.any fun q => d.1 = q.output || d.1 = q.input) }

/-- Tell of the jobs that signals have ended since it was last told. -/
def notices : Step Unit := do
  if (← get).jobs.isEmpty then return
  reap
  forgetPartners
  for j in (← get).jobs do
    match j.ended with
    | some (.signaled _) => tellEnd false j.ended (← progress j)
    | _ => pure ()
  forget fun j => j.waited || (j.ended.any fun how => match how with
    | .signaled _ => true
    | .exited _ => false)

end Step

end CompileTree.Shell.Extended
