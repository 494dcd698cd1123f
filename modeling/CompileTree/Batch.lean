/-! # Batches of jobs

Jobs are started in order and report their outcomes over a channel. After every
start the channel is emptied, and each outcome taken from it is counted and
handed on; once all jobs are through, what is left is taken. A job that dies
reports nothing and is counted as a failure in the end.
-/

/-! ## Outcomes and their tally

How a launch ended, and how many ended in each way.
-/

namespace CompileTree

/-- How a launch ended. -/
inductive Outcome where
  | success
  /-- The program ran and reported a failure, by an exit code or by dying of a signal. -/
  | partialRun (code : Option Int)
  /-- The program never ran. -/
  | launchFailure (reason : String)
  deriving DecidableEq, Repr

/-- How a process ended. -/
inductive ExitStatus where
  | exited (code : Nat)
  | signaled (signal : Nat)
  deriving DecidableEq, Repr

/-- The ending that the status word of a process describes: bits 0 to 6 tell of a
    signal, bits 8 to 15 hold the exit code. -/
def ExitStatus.ofWord (word : Int) : ExitStatus :=
  if word % 128 = 0 then .exited (word / 256 % 256).toNat else .signaled (word % 128).toNat

/-- The outcome of a launch whose process ended. -/
def Outcome.ofStatus : ExitStatus → Outcome
  | .exited 0 => .success
  | .exited code => .partialRun (some code)
  | .signaled _ => .partialRun none

/-- How many launches ended in each way. -/
structure Tally where
  successes : Nat
  partials : Nat
  failures : Nat
  deriving DecidableEq, Repr

namespace Tally

/-- No launches. -/
def zero : Tally := ⟨0, 0, 0⟩

/-- Count one more launch. -/
def record (t : Tally) : Outcome → Tally
  | .success => { t with successes := t.successes + 1 }
  | .partialRun _ => { t with partials := t.partials + 1 }
  | .launchFailure _ => { t with failures := t.failures + 1 }

/-- The number of launches. -/
def total (t : Tally) : Nat := t.successes + t.partials + t.failures

/-- How a tally is written. -/
def text (t : Tally) : String :=
  "[s=" ++ toString t.successes ++ ",p=" ++ toString t.partials ++ ",f=" ++ toString t.failures ++ "]"

@[simp] theorem total_zero : zero.total = 0 := rfl

@[simp] theorem total_record (t : Tally) (o : Outcome) : (t.record o).total = t.total + 1 := by
  cases o <;> simp [record, total] <;> omega

end Tally

/-! ## Running jobs -/

/-- A job: its effects and its outcome, none if it dies before it can report. -/
abbrev Job (m : Type → Type) := m (Option Outcome)

/-- The outcome of the job with the given number. -/
abbrev Completion := Nat × Outcome

namespace Batch

/-- How many jobs may be under way at once: none asked for means one. -/
def workers (threads : Nat) : Nat := max threads 1

variable {m : Type → Type} [Monad m]

/-- Run a job to its end; its outcome joins the channel. -/
def submit (number : Nat) (job : Job m) (channel : List Completion) : m (List Completion) := do
  match ← job with
  | some outcome => return channel ++ [(number, outcome)]
  | none => return channel

/-- Count and hand on all that the channel holds. -/
def drain (handle : Nat → Outcome → m Unit) (tally : Tally) (channel : List Completion) : m Tally :=
  channel.foldlM (fun t c => do handle c.1 c.2; return t.record c.2) tally

/-- Run the jobs that are left, the first of which has the given number. -/
def runFrom (handle : Nat → Outcome → m Unit) (number : Nat) (tally : Tally)
    (channel : List Completion) : List (Job m) → m Tally
  | [] => drain handle tally channel
  | job :: jobs => do
    let channel ← submit number job channel
    let tally ← drain handle tally channel
    runFrom handle (number + 1) tally [] jobs

/-- Count the jobs that never reported as failures. -/
def settle (expected : Nat) (tally : Tally) : Tally :=
  { tally with failures := tally.failures + (expected - tally.total) }

/-- Run all jobs one after the other. -/
def run (handle : Nat → Outcome → m Unit) (jobs : List (Job m)) : m Tally := do
  let tally ← runFrom handle 0 .zero [] jobs
  return settle jobs.length tally

/-- The tally of a batch and its completions in the order in which they are handed on. -/
def record (jobs : List (Option Outcome)) : Tally × List Completion :=
  let handle (number : Nat) (outcome : Outcome) : StateM (List Completion) Unit :=
    modify (· ++ [(number, outcome)])
  (run handle (jobs.map (pure ·))).run []

end Batch

end CompileTree
