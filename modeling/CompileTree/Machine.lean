import CompileTree.Failure
import CompileTree.Files.Change
import CompileTree.Files.Walk
import CompileTree.Shell.Run

/-! # Machines

A machine is what tasks work on: files, a working directory, variables, a clock
and the two outputs. Tasks that fail leave it as far as they have got.
-/

namespace CompileTree

open Files Shell

/-- What tasks work on. -/
structure Machine where
  files : Tree
  /-- The working directory. -/
  working : Location
  /-- The variables of the environment. -/
  environment : List (String × String)
  /-- The time in nanoseconds. -/
  clock : Nat
  /-- The number of the running process. -/
  process : Nat
  /-- How many names for temporary files were drawn. -/
  drawn : Nat
  /-- What was written to the outputs. -/
  written : Written

/-- A task that may fail. -/
abbrev Task (ε : Type) := ExceptT ε (StateM Machine)

namespace Task

variable {ε : Type}

/-- What a question about the files answers. -/
def ask {α : Type} (question : Tree → Location → α) : Task ε α := do
  let m ← getThe Machine
  return question m.files m.working

/-- Change the files, whatever comes of it. -/
def change {α : Type} (f : Location → Change α) : Task Error α := do
  let m ← getThe Machine
  let (result, files) := ((f m.working).run).run m.files
  set { m with files }
  match result with
  | .ok a => return a
  | .error e => throw e

/-- Carry out a task that fails for other reasons. -/
def mapError {δ α : Type} (f : δ → ε) (task : Task δ α) : Task ε α :=
  ExceptT.adapt f task

/-- Carry out something that may fail in a given context. -/
def within {α : Type} (context : Failure.Context) (task : Task Error α) : Task Failure α :=
  mapError (fun e => Failure.during context (.files e)) task

/-- A result that is already known to be a failure or not. -/
def ofExcept {α : Type} : Except ε α → Task ε α
  | .ok a => return a
  | .error e => throw e

/-- The text of a file. -/
def readText (p : Path) : Task Error String := do
  ofExcept (← ask fun t working => t.readText working p)

/-- Write to an output. -/
def write (chunks : Written) : Task ε Unit :=
  modifyThe Machine fun m => { m with written := m.written ++ chunks }

/-- Give a file new bytes, or make it. A device may pass them on to an output. -/
def writeFile (p : Path) (bytes : ByteArray) : Task Error Unit := do
  change fun working => Files.change (·.write working p bytes)
  match ← ask fun t working => t.entry working true p with
  | .ok (_, .device (.stream s)) => write [(s, bytes)]
  | _ => return

/-- Write a line to the output. -/
def say (line : String) : Task ε Unit := write [(.output, (line ++ "\n").toUTF8)]

/-- Write text to the error output. -/
def complain (text : String) : Task ε Unit := write [(.errors, text.toUTF8)]

/-- The value of a variable. -/
def valueOf (name : String) : Task ε (Option String) := do
  return (← getThe Machine).environment.lookup name

/-- The time; it passes when it is asked for. -/
def time : Task ε Nat := do
  let m ← getThe Machine
  set { m with clock := m.clock + 1 }
  return m.clock

/-- Run a program. What it does to the files stays. -/
def capture (destination : Destination) (name : String) (arguments : List String) :
    Task ε (Except Error Finished) := do
  let m ← getThe Machine
  let here : Surroundings :=
    { files := m.files, working := m.working, environment := m.environment, destination
      caller := m.process, process := m.process + 1, clock := m.clock }
  match runProgram here name arguments with
  | .ok done =>
    set { m with files := done.files, clock := done.clock }
    return .ok done
  | .error e => return .error e

/-- The absolute path that a path stands for. -/
def absolute (p : Path) : Task ε Path := do
  if p.isAbsolute then return p
  return (Tree.pathOf (← getThe Machine).working).join p

/-! ### How tasks run -/

section Run

variable {α β : Type} {m m' : Machine} {task : Task ε α} {next : α → Task ε β} {a : α}

/-- What succeeds is followed by what comes next. -/
theorem run_bind_ok (h : task.run.run m = (.ok a, m')) :
    (task >>= next).run.run m = (next a).run.run m' := by
  rw [ExceptT.run_bind, StateT.run_bind, h]
  rfl

/-- What fails is followed by nothing. -/
theorem run_bind_error {e : ε} (h : task.run.run m = (.error e, m')) :
    (task >>= next).run.run m = (.error e, m') := by
  rw [ExceptT.run_bind, StateT.run_bind, h]
  rfl

theorem run_map_ok (h : task.run.run m = (.ok a, m')) (f : α → β) :
    (f <$> task).run.run m = (.ok (f a), m') := by
  rw [ExceptT.run_map, StateT.run_map, h]
  rfl

theorem run_ask (question : Tree → Location → α) (m : Machine) :
    (Task.ask question : Task ε α).run.run m = (.ok (question m.files m.working), m) := rfl

theorem run_readText (p : Path) (m : Machine) :
    (Task.readText p).run.run m = (m.files.readText m.working p, m) := by
  rw [Task.readText, run_bind_ok (run_ask _ m)]
  cases m.files.readText m.working p <;> rfl

/-- What changes do to the files they do to those of the machine. -/
theorem run_change (f : Location → Change α) (m : Machine) :
    (Task.change f).run.run m =
      (((f m.working).run.run m.files).1, { m with files := ((f m.working).run.run m.files).2 }) := by
  have got : (getThe Machine : Task Error Machine).run.run m = (.ok m, m) := rfl
  rw [Task.change, run_bind_ok got]
  cases (f m.working).run.run m.files with
  | mk result files => cases result <;> rfl

/-- What is done in a context fails for the same reason in that context. -/
theorem run_within (context : Failure.Context) (task : Task Error α) (m : Machine) :
    (Task.within context task).run.run m =
      ((task.run.run m).1.mapError fun e => .during context (.files e), (task.run.run m).2) := by
  rw [Task.within, Task.mapError, ExceptT.run_adapt, StateT.run_map]
  rfl

end Run

end Task

end CompileTree
