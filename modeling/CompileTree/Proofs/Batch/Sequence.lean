import CompileTree.Proofs.Batch.Schedule
import Mathlib.Data.List.Infix

/-! # One job after the other

What can be seen of a schedule are the jobs that begin and end and the outcomes that are
handed on. When every job runs to its end while it is handed over, there is only one thing
to be seen: each job begins and ends, and its outcome is handed on before the next job
begins. What has been seen and what the started jobs still owe is always that of the
started jobs one after the other (`InTurn.step`).
-/

namespace CompileTree.Batch

/-- What can be seen of a schedule. -/
inductive Event where
  | began (number : Nat)
  | ended (number : Nat)
  | handedOn (number : Nat) (outcome : Outcome)
  deriving DecidableEq, Repr

/-- An outcome that is handed on. -/
def handing (c : Completion) : Event := .handedOn c.1 c.2

/-- What is seen when a schedule gets from one place to another. -/
def news (p q : Progress) : List Event :=
  (q.running.filter (· ∉ p.running)).map .began ++ (p.running.filter (· ∉ q.running)).map .ended ++
    (q.handled.drop p.handled.length).map handing

/-- A schedule, with what was seen of it so far. -/
inductive Traced (executor : Executor) (jobs : List (Option Outcome)) : List Event → Progress → Prop where
  | initial : Traced executor jobs [] .initial
  | step {trace : List Event} {p q : Progress} : Traced executor jobs trace p →
      Step executor jobs p q → Traced executor jobs (trace ++ news p q) q

/-- What follows the end of a job: its outcome is handed on, if it reports one. -/
def reported (jobs : List (Option Outcome)) (i : Nat) : List Event :=
  (report? jobs i).toList.map handing

/-- A job's turn. -/
def turn (jobs : List (Option Outcome)) (i : Nat) : List Event := .began i :: .ended i :: reported jobs i

/-- The turns of the first jobs, one after the other. -/
def turns (jobs : List (Option Outcome)) (started : Nat) : List Event :=
  (List.range started).flatMap (turn jobs)

variable {executor : Executor} {jobs : List (Option Outcome)} {trace : List Event} {p q : Progress}

theorem Traced.reaches (h : Traced executor jobs trace p) : Reaches executor jobs p := by
  induction h with
  | initial => exact .initial
  | step _ hstep ih => exact .step ih hstep

theorem Reaches.exists_traced (h : Reaches executor jobs p) : ∃ trace, Traced executor jobs trace p := by
  induction h with
  | initial => exact ⟨[], .initial⟩
  | step _ hstep ih =>
      obtain ⟨trace, h⟩ := ih
      exact ⟨_, h.step hstep⟩

theorem reported_of_sent {i : Nat} {o : Outcome} (h : jobs[i]? = some (some o)) :
    reported jobs i = [.handedOn i o] := by
  rw [reported, report?_eq_some.2 ⟨rfl, h⟩]
  rfl

theorem reported_of_dead {i : Nat} (h : jobs[i]? = some none) : reported jobs i = [] := by
  rw [reported, report?, h]
  rfl

theorem turns_succ (k : Nat) : turns jobs (k + 1) = turns jobs k ++ turn jobs k := by
  rw [turns, List.range_succ, List.flatMap_append, List.flatMap_singleton, turns]

theorem turns_prefix {k n : Nat} (h : k ≤ n) : turns jobs k <+: turns jobs n := by
  induction h with
  | refl => exact List.prefix_rfl
  | step _ ih =>
      rw [turns_succ]
      exact ih.trans (List.prefix_append ..)

/-! ## Schedules -/

/-- What is still to be seen of the jobs that were handed over. -/
def Progress.owed (jobs : List (Option Outcome)) (p : Progress) : List Event :=
  p.channel.map handing ++ p.running.flatMap (fun i => .ended i :: reported jobs i) ++
    p.queued.flatMap (turn jobs)

/-- The jobs take turns: one of them at most is under way, none when the next one is
    handed over, and what is seen and owed are the turns of those that were handed over. -/
structure InTurn (jobs : List (Option Outcome)) (trace : List Event) (p : Progress) : Prop where
  turns : trace ++ p.owed jobs = turns jobs p.started
  alone : p.channel.length + p.running.length + p.queued.length ≤ 1
  returned : p.stage ≠ .submitting → p.running = [] ∧ p.queued = []
  drained : p.stage ≠ .submitting → p.stage ≠ .draining → p.channel = []

theorem inTurn_initial : InTurn jobs [] .initial where
  turns := rfl
  alone := Nat.zero_le 1
  returned _ := ⟨rfl, rfl⟩
  drained _ _ := rfl

/-- A job is under way only while it is handed over. -/
theorem InTurn.stage_eq (h : InTurn jobs trace p) {i : Nat} (hi : i ∈ p.running ++ p.queued) :
    p.stage = .submitting := by
  by_contra other
  obtain ⟨hrunning, hqueued⟩ := h.returned other
  simp [hrunning, hqueued] at hi

theorem eq_singleton_of_mem {i : Nat} {l : List Nat} (hi : i ∈ l) (short : l.length ≤ 1) : l = [i] := by
  obtain ⟨j, rfl⟩ := List.length_eq_one_iff.1 (le_antisymm short (List.length_pos_of_mem hi))
  rw [List.mem_singleton.1 hi]

/-- A job under way is the only one that owes something. -/
theorem InTurn.of_mem_running (h : InTurn jobs trace p) {i : Nat} (hi : i ∈ p.running) :
    p.channel = [] ∧ p.running = [i] ∧ p.queued = [] := by
  have alone := h.alone
  have some := List.length_pos_of_mem hi
  exact ⟨List.eq_nil_of_length_eq_zero (by omega), eq_singleton_of_mem hi (by omega),
    List.eq_nil_of_length_eq_zero (by omega)⟩

theorem InTurn.of_mem_queued (h : InTurn jobs trace p) {i : Nat} (hi : i ∈ p.queued) :
    p.channel = [] ∧ p.running = [] ∧ p.queued = [i] := by
  have alone := h.alone
  have some := List.length_pos_of_mem hi
  exact ⟨List.eq_nil_of_length_eq_zero (by omega), List.eq_nil_of_length_eq_zero (by omega),
    eq_singleton_of_mem hi (by omega)⟩

theorem append_news (running : q.running = p.running) (handled : q.handled = p.handled) :
    trace ++ news p q = trace := by
  simp [news, running, handled]

theorem InTurn.step (h : InTurn jobs trace p) (hstep : Step .sequential jobs p q) :
    InTurn jobs (trace ++ news p q) q := by
  have quiet : q.running = p.running → q.handled = p.handled → trace ++ news p q = trace := append_news
  have hturns := h.turns
  rw [Progress.owed] at hturns
  cases hstep with
  | start hstage hleft =>
      obtain ⟨hrunning, hqueued⟩ := h.returned (by simp [hstage])
      have hchannel := h.drained (by simp [hstage]) (by simp [hstage])
      have before : trace = Batch.turns jobs p.started := by
        simpa [hchannel, hrunning, hqueued] using hturns
      rw [quiet rfl rfl]
      refine ⟨?_, by simp [hchannel, hrunning, hqueued], fun h => absurd rfl h, fun h => absurd rfl h⟩
      simp [Progress.owed, hchannel, hrunning, hqueued, turns_succ, before]
  | submitted hstage hreturn =>
      rw [quiet rfl rfl]
      exact ⟨hturns, h.alone, fun _ => ⟨hreturn.2, hreturn.1⟩, fun _ h => absurd rfl h⟩
  | @take c rest hstage hchannel =>
      obtain ⟨hrunning, hqueued⟩ := h.returned (by rcases hstage with h | h <;> simp [h])
      have alone := h.alone
      rw [hchannel, List.length_cons] at alone
      obtain rfl : rest = [] := List.eq_nil_of_length_eq_zero (by omega)
      refine ⟨?_, by simp [hrunning, hqueued], fun _ => ⟨hrunning, hqueued⟩, fun _ _ => rfl⟩
      rw [hchannel, hrunning, hqueued] at hturns
      simpa [Progress.owed, news, hrunning, hqueued] using hturns
  | drained hstage hchannel =>
      rw [quiet rfl rfl]
      exact ⟨hturns, h.alone, fun _ => h.returned (by simp [hstage]), fun _ _ => hchannel⟩
  | close hstage hall =>
      rw [quiet rfl rfl]
      exact ⟨hturns, h.alone, fun _ => h.returned (by simp [hstage]),
        fun _ _ => h.drained (by simp [hstage]) (by simp [hstage])⟩
  | finish hstage hchannel hqueued hrunning =>
      rw [quiet rfl rfl]
      exact ⟨hturns, h.alone, fun _ => ⟨hrunning, hqueued⟩, fun _ _ => hchannel⟩
  | @takeUp i hi =>
      have stays := h.stage_eq (List.mem_append_right _ hi)
      obtain ⟨hchannel, hrunning, hqueued⟩ := h.of_mem_queued hi
      refine ⟨?_, by simp [hchannel, hrunning, hqueued], fun h => absurd stays h, fun _ _ => hchannel⟩
      rw [hchannel, hrunning, hqueued] at hturns
      simpa [Progress.owed, news, hchannel, hrunning, hqueued, turn] using hturns
  | @send i o hi ho =>
      have stays := h.stage_eq (List.mem_append_left _ hi)
      obtain ⟨hchannel, hrunning, hqueued⟩ := h.of_mem_running hi
      refine ⟨?_, by simp [hchannel, hrunning, hqueued], fun h => absurd stays h, fun h => absurd stays h⟩
      rw [hchannel, hrunning, hqueued] at hturns
      simpa [Progress.owed, news, hchannel, hrunning, hqueued, reported_of_sent ho, handing] using hturns
  | @die i hi hdead =>
      have stays := h.stage_eq (List.mem_append_left _ hi)
      obtain ⟨hchannel, hrunning, hqueued⟩ := h.of_mem_running hi
      refine ⟨?_, by simp [hchannel, hrunning, hqueued], fun h => absurd stays h, fun _ _ => hchannel⟩
      rw [hchannel, hrunning, hqueued] at hturns
      simpa [Progress.owed, news, hchannel, hrunning, hqueued, reported_of_dead hdead] using hturns

theorem Traced.inTurn (h : Traced .sequential jobs trace p) : InTurn jobs trace p := by
  induction h with
  | initial => exact inTurn_initial
  | step _ hstep ih => exact ih.step hstep

/-- What is seen are the first turns, and all of them in the end. -/
theorem Traced.prefix_turns (h : Traced .sequential jobs trace p) :
    trace <+: turns jobs jobs.length ∧ (p.stage = .finished → trace = turns jobs jobs.length) := by
  have consistent := h.reaches.consistent
  have inTurn := h.inTurn
  constructor
  · exact (List.prefix_append trace _).trans (inTurn.turns ▸ turns_prefix consistent.bounded)
  · intro finished
    have turns := inTurn.turns
    obtain ⟨hchannel, hqueued, hrunning⟩ := consistent.ended finished
    rw [consistent.started (.inr finished)] at turns
    simpa [Progress.owed, hchannel, hqueued, hrunning] using turns

/-- A schedule goes on to its end. -/
theorem Traced.exists_finished (h : Traced executor jobs trace p) (willing : executor.Willing) :
    ∃ more q, Traced executor jobs (trace ++ more) q ∧ q.stage = .finished := by
  obtain ⟨q, -, steps, finished⟩ := h.reaches.exists_finished willing
  have goesOn : ∃ more, Traced executor jobs (trace ++ more) q := by
    clear finished
    induction steps with
    | refl => exact ⟨[], by rwa [List.append_nil]⟩
    | tail _ hstep ih =>
        obtain ⟨more, h⟩ := ih
        exact ⟨_, List.append_assoc .. ▸ h.step hstep⟩
  obtain ⟨more, h⟩ := goesOn
  exact ⟨more, q, h, finished⟩

/-! ## Effects -/

section Effects

variable {m : Type → Type} [Monad m]

/-- Run a job and hand its outcome on at once. -/
def perform (handle : Nat → Outcome → m Unit) (number : Nat) (job : Job m) : m (Option Outcome) := do
  let outcome? ← job
  match outcome? with
  | some outcome => handle number outcome
  | none => pure ()
  return outcome?

/-- Perform the jobs one after the other, the first of which has the given number. -/
def performAll (handle : Nat → Outcome → m Unit) (number : Nat) (jobs : List (Job m)) :
    m (List (Option Outcome)) :=
  (jobs.zipIdx number).mapM fun job => perform handle job.2 job.1

variable [LawfulMonad m]

theorem performAll_cons (handle : Nat → Outcome → m Unit) (number : Nat) (job : Job m)
    (jobs : List (Job m)) :
    performAll handle number (job :: jobs) = do
      let outcome ← perform handle number job
      let outcomes ← performAll handle (number + 1) jobs
      return outcome :: outcomes := by
  rw [performAll, List.zipIdx_cons, List.mapM_cons]
  rfl

theorem runFrom_eq (handle : Nat → Outcome → m Unit) (number : Nat) (tally : Tally)
    (jobs : List (Job m)) :
    runFrom handle number tally [] jobs =
      (fun outcomes => (outcomes.filterMap id).foldl Tally.record tally) <$>
        performAll handle number jobs := by
  induction jobs generalizing number tally with
  | nil => simp [runFrom, drain, performAll]
  | cons job jobs ih =>
      rw [runFrom, performAll_cons]
      simp only [submit, perform, bind_assoc, map_bind]
      congr 1
      funext outcome?
      cases outcome? with
      | none => simp [drain, ih]
      | some outcome => simp [drain, ih]

/-- A batch that runs one job after the other performs them in turn: every job runs to its
    end, its outcome is handed on if it reports one, and only then does the next job begin,
    whichever jobs die. That is all that can be seen of any schedule whose jobs run while
    they are handed over, each of which comes to its end; and that is in which order the
    effects of a run follow each other, its tally being that of the outcomes. -/
theorem performed_in_turn (outcomes : List (Option Outcome)) (handle : Nat → Outcome → m Unit)
    (jobs : List (Job m)) :
    (∀ trace p, Traced .sequential outcomes trace p →
      trace <+: turns outcomes outcomes.length ∧
        (p.stage = .finished → trace = turns outcomes outcomes.length) ∧
        ∃ more q, Traced .sequential outcomes (trace ++ more) q ∧ q.stage = .finished) ∧
      run handle jobs =
        (fun outcomes => settle jobs.length (.ofOutcomes (outcomes.filterMap id))) <$>
          performAll handle 0 jobs := by
  constructor
  · intro trace p h
    obtain ⟨first, all⟩ := h.prefix_turns
    exact ⟨first, all, h.exists_finished (willing_ofThreads 1)⟩
  · rw [run, runFrom_eq]
    simp [Tally.ofOutcomes]

end Effects

/-- A job that writes down when it begins and ends. -/
def logged (number : Nat) (outcome? : Option Outcome) : Job (StateM (List Event)) := do
  modify (· ++ [.began number, .ended number])
  return outcome?

/-- Write down that an outcome is handed on. -/
def logHandedOn (number : Nat) (outcome : Outcome) : StateM (List Event) Unit :=
  modify (· ++ [.handedOn number outcome])

theorem performed_in_turn_died :
    LawfulMonad (StateM (List Event)) ∧
      (∃ p, Traced .sequential [some .success, none, some (.partialRun (some 1))]
        [.began 0, .ended 0, .handedOn 0 .success, .began 1, .ended 1, .began 2, .ended 2,
          .handedOn 2 (.partialRun (some 1))] p ∧ p.stage = .finished) ∧
      (run logHandedOn [logged 0 (some .success), logged 1 none,
          logged 2 (some (.partialRun (some 1)))]).run [] =
        (⟨1, 1, 1⟩, [.began 0, .ended 0, .handedOn 0 .success, .began 1, .ended 1, .began 2, .ended 2,
          .handedOn 2 (.partialRun (some 1))]) := by
  obtain ⟨schedules, effects⟩ := performed_in_turn [some .success, none, some (.partialRun (some 1))]
    logHandedOn [logged 0 (some .success), logged 1 none, logged 2 (some (.partialRun (some 1)))]
  obtain ⟨-, -, more, q, traced, finished⟩ := schedules [] .initial .initial
  obtain ⟨-, all, -⟩ := schedules _ q traced
  have order := all finished
  rw [order] at traced
  refine ⟨inferInstance, ⟨q, traced, finished⟩, ?_⟩
  rw [effects]
  rfl

end CompileTree.Batch
