import CompileTree.Batch

/-! # Schedules

All the ways in which a batch may run when its jobs are handed to an executor one by
one. The starting thread empties the channel after every job, without waiting for
more; when all jobs are handed over, it lets go of the channel and takes outcomes
until none can come any more. In between, the executor takes jobs up as it is made,
and a job that was taken up ends when it likes, with its outcome sent or dead.
-/

namespace CompileTree.Batch

/-- Where the starting thread stands. -/
inductive Stage where
  /-- About to hand over the next job, if one is left. -/
  | starting
  /-- A job is being handed over. -/
  | submitting
  /-- Taking what the channel holds. -/
  | draining
  /-- All jobs are handed over: taking outcomes as long as one may come. -/
  | waiting
  /-- The jobs that never reported are counted. -/
  | finished
  deriving DecidableEq, Repr

/-- Where a batch stands. -/
structure Progress where
  stage : Stage
  /-- How many jobs were handed over. -/
  started : Nat
  /-- The jobs that were handed over and not taken up yet. -/
  queued : List Nat
  /-- The jobs that were taken up and have not ended. -/
  running : List Nat
  /-- The outcomes that were sent and not taken yet. -/
  channel : List Completion
  /-- The outcomes that were taken and handed on, in order. -/
  handled : List Completion
  tally : Tally
  deriving DecidableEq, Repr

/-- Before the first job is handed over. -/
def Progress.initial : Progress := ⟨.starting, 0, [], [], [], [], .zero⟩

/-- How an executor is made: which job it may take up, and when the handing over of
    one is done. -/
structure Executor where
  mayBegin : Progress → Nat → Prop
  mayReturn : Progress → Prop

namespace Executor

/-- Every job runs to its end while it is handed over. -/
def sequential : Executor where
  mayBegin _ _ := True
  mayReturn p := p.queued = [] ∧ p.running = []

/-- Jobs run beside the starting thread, at most so many of them at once. -/
def pool (threads : Nat) : Executor where
  mayBegin p _ := p.running.length < threads
  mayReturn _ := True

/-- The executor for a number of threads. -/
def ofThreads (threads : Nat) : Executor := if threads ≤ 1 then sequential else pool threads

end Executor

/-- One event of a schedule for jobs with the given outcomes. -/
inductive Step (executor : Executor) (jobs : List (Option Outcome)) : Progress → Progress → Prop where
  | start {p : Progress} : p.stage = .starting → p.started < jobs.length →
      Step executor jobs p { p with
        stage := .submitting, started := p.started + 1, queued := p.queued ++ [p.started] }
  | submitted {p : Progress} : p.stage = .submitting → executor.mayReturn p →
      Step executor jobs p { p with stage := .draining }
  | take {p : Progress} {c : Completion} {rest : List Completion} :
      p.stage = .draining ∨ p.stage = .waiting → p.channel = c :: rest →
      Step executor jobs p { p with
        channel := rest, handled := p.handled ++ [c], tally := p.tally.record c.2 }
  | drained {p : Progress} : p.stage = .draining → p.channel = [] →
      Step executor jobs p { p with stage := .starting }
  | close {p : Progress} : p.stage = .starting → p.started = jobs.length →
      Step executor jobs p { p with stage := .waiting }
  /-- No outcome can come when all have been taken and no job is left to send one. -/
  | finish {p : Progress} : p.stage = .waiting → p.channel = [] → p.queued = [] → p.running = [] →
      Step executor jobs p { p with stage := .finished, tally := settle jobs.length p.tally }
  | takeUp {p : Progress} {i : Nat} : i ∈ p.queued → executor.mayBegin p i →
      Step executor jobs p { p with queued := p.queued.erase i, running := p.running ++ [i] }
  | send {p : Progress} {i : Nat} {o : Outcome} : i ∈ p.running → jobs[i]? = some (some o) →
      Step executor jobs p { p with running := p.running.erase i, channel := p.channel ++ [(i, o)] }
  | die {p : Progress} {i : Nat} : i ∈ p.running → jobs[i]? = some none →
      Step executor jobs p { p with running := p.running.erase i }

/-- What a schedule may lead to. -/
inductive Reaches (executor : Executor) (jobs : List (Option Outcome)) : Progress → Prop where
  | initial : Reaches executor jobs .initial
  | step {p q : Progress} : Reaches executor jobs p → Step executor jobs p q → Reaches executor jobs q

end CompileTree.Batch
