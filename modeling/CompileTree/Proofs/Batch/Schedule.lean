import CompileTree.Batch.Schedule
import Mathlib.Data.List.Basic
import Mathlib.Data.List.Nodup
import Mathlib.Data.List.Induction
import Mathlib.Data.List.Perm.Basic

/-! # What comes of a schedule

However the jobs of a batch run beside each other, the outcomes that were handed on,
those in the channel and those that the jobs under way will send are together what the
started jobs report, each of them once. So when a schedule ends, every job that reports
was handed on once, and the tally is that of running the jobs one after the other.
-/

namespace CompileTree

namespace Tally

/-- The tally of some outcomes. -/
def ofOutcomes (outcomes : List Outcome) : Tally := outcomes.foldl record .zero

theorem ofOutcomes_concat (outcomes : List Outcome) (o : Outcome) :
    ofOutcomes (outcomes ++ [o]) = (ofOutcomes outcomes).record o := by
  rw [ofOutcomes, List.foldl_concat, ofOutcomes]

theorem ofOutcomes_eq (outcomes : List Outcome) :
    ofOutcomes outcomes =
      { successes := outcomes.countP (· matches .success)
        partials := outcomes.countP (· matches .partialRun _)
        failures := outcomes.countP (· matches .launchFailure _) } := by
  induction outcomes using List.reverseRecOn with
  | nil => rfl
  | append_singleton outcomes o ih =>
      rw [ofOutcomes_concat, ih]
      cases o <;> simp [record]

theorem total_ofOutcomes (outcomes : List Outcome) : (ofOutcomes outcomes).total = outcomes.length := by
  induction outcomes using List.reverseRecOn with
  | nil => rfl
  | append_singleton outcomes o ih => rw [ofOutcomes_concat, total_record, ih, List.length_append]; rfl

/-- The order of outcomes does not show in their tally. -/
theorem ofOutcomes_perm {outcomes others : List Outcome} (h : outcomes.Perm others) :
    ofOutcomes outcomes = ofOutcomes others := by
  rw [ofOutcomes_eq, ofOutcomes_eq, h.countP_eq, h.countP_eq, h.countP_eq]

end Tally

namespace Batch

variable {executor : Executor} {jobs : List (Option Outcome)} {p q : Progress}

/-! ## What jobs report -/

/-- What the job with the given number reports, if it does. -/
def report? (jobs : List (Option Outcome)) (i : Nat) : Option Completion := (jobs[i]?.join).map (i, ·)

/-- What some jobs report. -/
def reports (jobs : List (Option Outcome)) (numbers : List Nat) : List Completion :=
  numbers.filterMap (report? jobs)

theorem report?_eq_some {i j : Nat} {o : Outcome} :
    report? jobs i = some (j, o) ↔ i = j ∧ jobs[i]? = some (some o) := by
  simp only [report?, Option.map_eq_some_iff, Option.join_eq_some_iff, Prod.mk.injEq]
  grind

theorem reports_append (numbers more : List Nat) :
    reports jobs (numbers ++ more) = reports jobs numbers ++ reports jobs more :=
  List.filterMap_append

theorem reports_perm {numbers more : List Nat} (h : numbers.Perm more) :
    (reports jobs numbers).Perm (reports jobs more) := h.filterMap _

theorem reports_erase_perm (jobs : List (Option Outcome)) {numbers : List Nat} {i : Nat} (h : i ∈ numbers)
    (more : List Nat) :
    (reports jobs (numbers ++ more)).Perm (reports jobs (i :: (numbers.erase i ++ more))) :=
  reports_perm ((List.perm_cons_erase h).append_right more)

theorem reports_cons_sent {i : Nat} {o : Outcome} (h : jobs[i]? = some (some o)) (numbers : List Nat) :
    reports jobs (i :: numbers) = (i, o) :: reports jobs numbers :=
  List.filterMap_cons_some (report?_eq_some.2 ⟨rfl, h⟩)

theorem reports_cons_dead {i : Nat} (h : jobs[i]? = some none) (numbers : List Nat) :
    reports jobs (i :: numbers) = reports jobs numbers :=
  List.filterMap_cons_none (by rw [report?, h]; rfl)

/-- Every job that reports does so once. -/
theorem count_reports_range (jobs : List (Option Outcome)) (i : Nat) (o : Outcome) :
    (reports jobs (List.range jobs.length)).count (i, o) = if jobs[i]? = some (some o) then 1 else 0 := by
  have once : (reports jobs (List.range jobs.length)).Nodup := by
    refine List.nodup_range.filterMap ?_
    intro i j c hi hj
    obtain ⟨n, o⟩ := c
    rw [Option.mem_def, report?_eq_some] at hi hj
    exact hi.1.trans hj.1.symm
  have reported : (i, o) ∈ reports jobs (List.range jobs.length) ↔ jobs[i]? = some (some o) := by
    rw [reports, List.mem_filterMap]
    constructor
    · rintro ⟨j, -, hj⟩
      obtain ⟨rfl, h⟩ := report?_eq_some.1 hj
      exact h
    · intro h
      obtain ⟨hlt, -⟩ := List.getElem?_eq_some_iff.1 h
      exact ⟨i, List.mem_range.2 hlt, report?_eq_some.2 ⟨rfl, h⟩⟩
  rw [once.count]
  exact if_congr reported rfl rfl

/-- The outcomes of all jobs, in their order. -/
theorem map_reports_range (jobs : List (Option Outcome)) :
    (reports jobs (List.range jobs.length)).map (·.2) = jobs.filterMap id := by
  have listed : (List.range jobs.length).map (fun i => jobs[i]?.join) = jobs := by
    refine List.ext_getElem (by simp) fun i _ hi => ?_
    simp [List.getElem?_eq_getElem hi]
  calc (reports jobs (List.range jobs.length)).map (·.2)
      = (List.range jobs.length).filterMap fun i => jobs[i]?.join := by
        rw [reports, List.map_filterMap]
        simp [report?, Function.comp_def]
    _ = ((List.range jobs.length).map fun i => jobs[i]?.join).filterMap id := by
        rw [List.filterMap_map]
        rfl
    _ = jobs.filterMap id := by rw [listed]

/-! ## One event

An event hands an outcome on, moves one along or moves a job along, but neither loses
nor adds anything.
-/

/-- What was handed on, what is in the channel and what the jobs under way will send is
    what the started jobs report. -/
def Progress.Accounted (jobs : List (Option Outcome)) (p : Progress) : Prop :=
  (p.handled ++ p.channel ++ reports jobs (p.running ++ p.queued)).Perm
    (reports jobs (List.range p.started))

theorem accounted_initial : Progress.initial.Accounted jobs := List.Perm.refl []

theorem Progress.Accounted.step (h : p.Accounted jobs) (hstep : Step executor jobs p q) :
    q.Accounted jobs := by
  unfold Progress.Accounted at h ⊢
  cases hstep with
  | submitted | drained | close | finish => exact h
  | start =>
      change (p.handled ++ p.channel ++ reports jobs (p.running ++ (p.queued ++ [p.started]))).Perm
        (reports jobs (List.range (p.started + 1)))
      rw [List.range_succ, ← List.append_assoc p.running, reports_append (p.running ++ p.queued),
        reports_append (List.range p.started), ← List.append_assoc]
      exact h.append_right _
  | take _ hchannel =>
      rw [hchannel] at h
      simpa using h
  | @takeUp i hi =>
      have moved : (p.running ++ [i] ++ p.queued.erase i).Perm (p.running ++ p.queued) := by
        rw [List.append_assoc]
        exact (List.perm_cons_erase hi).symm.append_left _
      exact ((reports_perm moved).append_left _).trans h
  | @send i o hi ho =>
      have moved := reports_erase_perm jobs hi p.queued
      rw [reports_cons_sent ho] at moved
      rw [← List.append_assoc, List.append_assoc]
      exact (moved.symm.append_left _).trans h
  | @die i hi hdead =>
      have moved := reports_erase_perm jobs hi p.queued
      rw [reports_cons_dead hdead] at moved
      exact (moved.symm.append_left _).trans h

/-- What the starting thread knows where it stands. -/
structure Progress.Consistent (jobs : List (Option Outcome)) (p : Progress) : Prop where
  tally : p.tally =
    if p.stage = .finished then settle jobs.length (.ofOutcomes (p.handled.map (·.2)))
    else .ofOutcomes (p.handled.map (·.2))
  started : p.stage = .waiting ∨ p.stage = .finished → p.started = jobs.length
  ended : p.stage = .finished → p.channel = [] ∧ p.queued = [] ∧ p.running = []
  bounded : p.started ≤ jobs.length
  known : ∀ i ∈ p.running ++ p.queued, i < p.started

theorem consistent_initial : Progress.initial.Consistent jobs where
  tally := rfl
  started := by rintro (h | h) <;> cases h
  ended h := by cases h
  bounded := Nat.zero_le _
  known _ h := by cases h

theorem Progress.Consistent.step (h : p.Consistent jobs) (hstep : Step executor jobs p q) :
    q.Consistent jobs := by
  obtain ⟨htally, hstarted, hended, hbounded, hknown⟩ := h
  cases hstep with
  | start hstage hleft =>
      rw [hstage] at htally
      refine ⟨htally, ?_, by rintro ⟨⟩, hleft, fun i hi => ?_⟩
      · rintro (h | h) <;> cases h
      · rw [← List.append_assoc] at hi
        rcases List.mem_append.1 hi with hi | hi
        · exact Nat.lt_succ_of_lt (hknown i hi)
        · exact List.mem_singleton.1 hi ▸ Nat.lt_succ_self _
  | submitted hstage | drained hstage =>
      rw [hstage] at htally
      refine ⟨htally, ?_, by rintro ⟨⟩, hbounded, hknown⟩
      rintro (h | h) <;> cases h
  | close hstage hall =>
      rw [hstage] at htally
      exact ⟨htally, fun _ => hall, by rintro ⟨⟩, hbounded, hknown⟩
  | take hstage =>
      have unfinished : p.stage ≠ .finished := by
        rcases hstage with h | h <;> simp [h]
      rw [if_neg unfinished] at htally
      refine ⟨?_, hstarted, fun h => absurd h unfinished, hbounded, hknown⟩
      rw [if_neg unfinished, htally, List.map_append]
      exact (Tally.ofOutcomes_concat _ _).symm
  | finish hstage hchannel hqueued hrunning =>
      rw [hstage] at htally
      exact ⟨congrArg (settle jobs.length) htally, fun _ => hstarted (.inl hstage),
        fun _ => ⟨hchannel, hqueued, hrunning⟩, hbounded, hknown⟩
  | @takeUp i hi =>
      refine ⟨htally, hstarted, fun h => ?_, hbounded, fun j hj => hknown j ?_⟩
      · rw [(hended h).2.1] at hi
        cases hi
      · simp only [List.append_assoc, List.singleton_append, List.mem_append, List.mem_cons] at hj ⊢
        rcases hj with hj | rfl | hj
        · exact .inl hj
        · exact .inr hi
        · exact .inr (List.mem_of_mem_erase hj)
  | @send i _ hi | @die i hi =>
      refine ⟨htally, hstarted, fun h => ?_, hbounded, fun j hj => hknown j ?_⟩
      · rw [(hended h).2.2] at hi
        cases hi
      · rcases List.mem_append.1 hj with hj | hj
        · exact List.mem_append_left _ (List.mem_of_mem_erase hj)
        · exact List.mem_append_right _ hj

/-! ## A whole schedule -/

theorem Reaches.accounted (h : Reaches executor jobs p) : p.Accounted jobs := by
  induction h with
  | initial => exact accounted_initial
  | step _ hstep ih => exact ih.step hstep

theorem Reaches.consistent (h : Reaches executor jobs p) : p.Consistent jobs := by
  induction h with
  | initial => exact consistent_initial
  | step _ hstep ih => exact ih.step hstep

/-- When a schedule ends, what was handed on is what all jobs report. -/
theorem Reaches.handled_perm (h : Reaches executor jobs p) (finished : p.stage = .finished) :
    p.handled.Perm (reports jobs (List.range jobs.length)) := by
  have all := h.consistent.started (.inr finished)
  obtain ⟨hchannel, hqueued, hrunning⟩ := h.consistent.ended finished
  have accounted := h.accounted
  rw [Progress.Accounted, hchannel, hqueued, hrunning, all] at accounted
  simpa [reports] using accounted

/-- The tally in the end tells the outcomes of the jobs, whatever the schedule. -/
theorem Reaches.tally_eq (h : Reaches executor jobs p) (finished : p.stage = .finished) :
    p.tally = settle jobs.length (.ofOutcomes (jobs.filterMap id)) := by
  have counted := h.consistent.tally
  rw [if_pos finished] at counted
  rw [counted, Tally.ofOutcomes_perm ((h.handled_perm finished).map _), map_reports_range]

/-! ## Which jobs are taken up -/

/-- A schedule, with the jobs that the executor took up, in their order. -/
inductive TakesUp (executor : Executor) (jobs : List (Option Outcome)) : List Nat → Progress → Prop where
  | initial : TakesUp executor jobs [] .initial
  | takeUp {taken : List Nat} {p : Progress} {i : Nat} : TakesUp executor jobs taken p →
      i ∈ p.queued → executor.mayBegin p i →
      TakesUp executor jobs (taken ++ [i]) { p with
        queued := p.queued.erase i, running := p.running ++ [i] }
  /-- Any other event: no more jobs are under way after it. -/
  | other {taken : List Nat} {p q : Progress} : TakesUp executor jobs taken p → Step executor jobs p q →
      q.running.length ≤ p.running.length → TakesUp executor jobs taken q

theorem TakesUp.reaches {taken : List Nat} (h : TakesUp executor jobs taken p) :
    Reaches executor jobs p := by
  induction h with
  | initial => exact .initial
  | takeUp _ hi mayBegin ih => exact .step ih (.takeUp hi mayBegin)
  | other _ hstep _ ih => exact .step ih hstep

/-- An event takes up one more job or none. -/
theorem TakesUp.exists_step {taken : List Nat} (h : TakesUp executor jobs taken p)
    (hstep : Step executor jobs p q) : ∃ more, TakesUp executor jobs (taken ++ more) q := by
  have stays : q.running.length ≤ p.running.length → TakesUp executor jobs (taken ++ []) q := by
    rw [List.append_nil]
    exact h.other hstep
  cases hstep with
  | @takeUp i hi mayBegin => exact ⟨[i], h.takeUp hi mayBegin⟩
  | start | submitted | take | drained | close | finish => exact ⟨[], stays (Nat.le_refl _)⟩
  | send | die => exact ⟨[], stays List.length_erase_le⟩

/-- Every schedule takes up some jobs in some order. -/
theorem Reaches.exists_takesUp (h : Reaches executor jobs p) : ∃ taken, TakesUp executor jobs taken p := by
  induction h with
  | initial => exact ⟨[], .initial⟩
  | step _ hstep ih =>
      obtain ⟨taken, h⟩ := ih
      obtain ⟨more, h⟩ := h.exists_step hstep
      exact ⟨_, h⟩

/-- What was handed over was taken up once or waits to be. -/
theorem TakesUp.perm {taken : List Nat} (h : TakesUp executor jobs taken p) :
    (taken ++ p.queued).Perm (List.range p.started) := by
  induction h with
  | initial => exact .refl []
  | @takeUp taken p i _ hi _ ih =>
      have moved : (taken ++ [i] ++ p.queued.erase i).Perm (taken ++ p.queued) := by
        rw [List.append_assoc]
        exact (List.perm_cons_erase hi).symm.append_left taken
      exact moved.trans ih
  | @other taken p q _ hstep fewer ih =>
      cases hstep with
      | submitted | drained | close | finish | take | send | die => exact ih
      | start =>
          rw [List.range_succ, ← List.append_assoc]
          exact ih.append_right _
      | takeUp hi =>
          rw [List.length_append, List.length_singleton] at fewer
          omega

/-- When a schedule ends, every job was taken up once. -/
theorem TakesUp.perm_of_finished {taken : List Nat} (h : TakesUp executor jobs taken p)
    (finished : p.stage = .finished) : taken.Perm (List.range jobs.length) := by
  have all := h.perm
  rw [(h.reaches.consistent.ended finished).2.1, h.reaches.consistent.started (.inr finished),
    List.append_nil] at all
  exact all

/-! ## One job after the other -/

/-- Write down what is handed on. -/
def collect (number : Nat) (outcome : Outcome) : StateM (List Completion) Unit :=
  modify (· ++ [(number, outcome)])

theorem run_drain (tally : Tally) (channel log : List Completion) :
    (drain collect tally channel).run log =
      ((channel.map (·.2)).foldl Tally.record tally, log ++ channel) := by
  induction channel generalizing tally log with
  | nil => simp [drain]; rfl
  | cons c channel ih =>
      have first : (drain collect tally (c :: channel)).run log =
          (drain collect (tally.record c.2) channel).run (log ++ [c]) := rfl
      rw [first, ih, List.append_assoc, List.singleton_append, List.map_cons, List.foldl_cons]

/-- The jobs that are left hand on what they report. -/
theorem run_runFrom (before rest : List (Option Outcome)) (tally : Tally) (log : List Completion) :
    (runFrom collect before.length tally [] (rest.map pure)).run log =
      (((reports (before ++ rest) (List.range' before.length rest.length)).map (·.2)).foldl
          Tally.record tally,
        log ++ reports (before ++ rest) (List.range' before.length rest.length)) := by
  induction rest generalizing before tally log with
  | nil => exact run_drain ..
  | cons job rest ih =>
      have here : (before ++ job :: rest)[before.length]? = some job := by simp
      have later := ih (before ++ [job])
      rw [List.length_append, List.append_assoc, List.singleton_append, List.length_singleton] at later
      rw [List.length_cons, List.range'_succ]
      cases job with
      | none =>
          rw [reports_cons_dead here]
          exact later tally log
      | some o =>
          have handedOn := later (tally.record o) (log ++ [(before.length, o)])
          rw [List.append_assoc, List.singleton_append] at handedOn
          rw [reports_cons_sent here]
          exact handedOn

theorem record_eq (jobs : List (Option Outcome)) :
    record jobs = (settle jobs.length (.ofOutcomes (jobs.filterMap id)),
      reports jobs (List.range jobs.length)) := by
  have all := run_runFrom [] jobs .zero []
  rw [List.nil_append, List.nil_append, List.length_nil, ← List.range_eq_range',
    map_reports_range] at all
  have ran : record jobs =
      (settle (jobs.map (pure (f := StateM (List Completion)) ·)).length
          ((runFrom collect 0 .zero [] (jobs.map pure)).run []).1,
        ((runFrom collect 0 .zero [] (jobs.map pure)).run []).2) := rfl
  rw [ran, List.length_map, all]
  rfl

/-! ## The tally -/

/-- Jobs that died are counted as failures, beside those that could not be launched. -/
theorem settle_ofOutcomes (jobs : List (Option Outcome)) :
    settle jobs.length (.ofOutcomes (jobs.filterMap id)) =
      { successes := jobs.count (some .success)
        partials := jobs.countP (· matches some (.partialRun _))
        failures := jobs.countP (· matches some (.launchFailure _)) + jobs.count none } := by
  have died : jobs.length - (jobs.filterMap id).length = jobs.count none := by
    have split := List.length_eq_countP_add_countP (fun job : Option Outcome => (id job).isSome) (l := jobs)
    have dead : jobs.count none = jobs.countP fun job => ¬ (id job).isSome = true := by
      rw [List.count_eq_countP]
      refine List.countP_congr fun job _ => ?_
      cases job <;> simp
    rw [List.length_filterMap_eq_countP]
    omega
  have counted : ∀ (kind : Outcome → Bool) (kind' : Option Outcome → Bool),
      (∀ o, kind' (some o) = kind o) → kind' none = false →
      (jobs.filterMap id).countP kind = jobs.countP kind' := by
    intro kind kind' hsome hnone
    rw [List.countP_filterMap]
    refine List.countP_congr fun job _ => ?_
    cases job <;> simp [hsome, hnone]
  have success := counted (· matches .success) (· == some .success) (by rintro ⟨⟩ <;> rfl) rfl
  have partly := counted (· matches .partialRun _) (· matches some (.partialRun _))
    (by rintro ⟨⟩ <;> rfl) rfl
  have failure := counted (· matches .launchFailure _) (· matches some (.launchFailure _))
    (by rintro ⟨⟩ <;> rfl) rfl
  rw [settle, Tally.total_ofOutcomes, died, Tally.ofOutcomes_eq, success, partly, failure]
  rfl

theorem total_settle {expected : Nat} {tally : Tally} (h : tally.total ≤ expected) :
    (settle expected tally).total = expected := by
  simp only [Tally.total, settle] at h ⊢
  omega

/-- However a batch is run, in the end every job that reports was handed on once with
    its outcome and no other job was; the tally counts every job, those that died as
    failures, and is that of running one job after the other. -/
theorem handled_of_finished (h : Reaches executor jobs p) (finished : p.stage = .finished) :
    (∀ i o, p.handled.count (i, o) = if jobs[i]? = some (some o) then 1 else 0) ∧
      p.tally.successes = jobs.count (some .success) ∧
      p.tally.partials = jobs.countP (· matches some (.partialRun _)) ∧
      p.tally.failures = jobs.countP (· matches some (.launchFailure _)) + jobs.count none ∧
      p.tally.total = jobs.length ∧ p.tally = (record jobs).1 := by
  have counted := h.tally_eq finished
  have reported : (Tally.ofOutcomes (jobs.filterMap id)).total ≤ jobs.length := by
    rw [Tally.total_ofOutcomes]
    exact List.length_filterMap_le ..
  refine ⟨fun i o => ?_, ?_, ?_, ?_, ?_, ?_⟩
  · rw [(h.handled_perm finished).count_eq, count_reports_range]
  · rw [counted, settle_ofOutcomes]
  · rw [counted, settle_ofOutcomes]
  · rw [counted, settle_ofOutcomes]
  · rw [counted, total_settle reported]
  · rw [counted, record_eq]

/-! ## Getting to the end -/

/-- An executor that does not stand still: it takes any job up when none is under way,
    and the handing over is done at the latest when no job is left. -/
structure Executor.Willing (executor : Executor) : Prop where
  begins : ∀ p i, p.running = [] → executor.mayBegin p i
  returns : ∀ p, p.queued = [] → p.running = [] → executor.mayReturn p

theorem willing_ofThreads (threads : Nat) : (Executor.ofThreads threads).Willing := by
  rw [Executor.ofThreads]
  split
  · exact ⟨fun _ _ _ => trivial, fun _ hqueued hrunning => ⟨hqueued, hrunning⟩⟩
  · next several =>
      refine ⟨fun p i hrunning => ?_, fun _ _ _ => trivial⟩
      change p.running.length < threads
      rw [hrunning, List.length_nil]
      omega

/-- A willing executor gets every batch on that is not at its end. -/
theorem Progress.Consistent.exists_step (h : p.Consistent jobs) (willing : executor.Willing)
    (unfinished : p.stage ≠ .finished) : ∃ q, Step executor jobs p q := by
  cases hrunning : p.running with
  | cons i others =>
      have hi : i ∈ p.running := hrunning ▸ List.mem_cons_self
      have bound : i < jobs.length :=
        Nat.lt_of_lt_of_le (h.known i (List.mem_append_left _ hi)) h.bounded
      cases outcome : jobs[i] with
      | none => exact ⟨_, .die hi (List.getElem?_eq_some_iff.2 ⟨bound, outcome⟩)⟩
      | some o => exact ⟨_, .send hi (List.getElem?_eq_some_iff.2 ⟨bound, outcome⟩)⟩
  | nil =>
      cases hqueued : p.queued with
      | cons i others => exact ⟨_, .takeUp (hqueued ▸ List.mem_cons_self) (willing.begins p i hrunning)⟩
      | nil =>
          cases hstage : p.stage with
          | starting =>
              rcases Nat.lt_or_eq_of_le h.bounded with hleft | hall
              · exact ⟨_, .start hstage hleft⟩
              · exact ⟨_, .close hstage hall⟩
          | submitting => exact ⟨_, .submitted hstage (willing.returns p hqueued hrunning)⟩
          | draining =>
              cases hchannel : p.channel with
              | nil => exact ⟨_, .drained hstage hchannel⟩
              | cons c rest => exact ⟨_, .take (.inl hstage) hchannel⟩
          | waiting =>
              cases hchannel : p.channel with
              | nil => exact ⟨_, .finish hstage hchannel hqueued hrunning⟩
              | cons c rest => exact ⟨_, .take (.inr hstage) hchannel⟩
          | finished => exact absurd hstage unfinished

/-- How much of its way the starting thread has before it. -/
def Stage.distance : Stage → Nat
  | .submitting => 4
  | .draining => 3
  | .starting => 2
  | .waiting => 1
  | .finished => 0

/-- A bound on the events to come: a job that is not handed over yet is good for six of
    them, and the later it is on its way the fewer are left. -/
def Progress.remaining (jobs : List (Option Outcome)) (p : Progress) : Nat :=
  6 * (jobs.length - p.started) + 3 * p.queued.length + 2 * p.running.length + p.channel.length +
    p.stage.distance

theorem Step.remaining_lt (hstep : Step executor jobs p q) : q.remaining jobs < p.remaining jobs := by
  unfold Progress.remaining
  cases hstep with
  | start hstage hleft =>
      simp only [hstage, Stage.distance, List.length_append, List.length_singleton]
      omega
  | submitted hstage | drained hstage | close hstage | finish hstage =>
      simp only [hstage, Stage.distance]
      omega
  | take hstage hchannel =>
      simp only [hchannel, List.length_cons]
      omega
  | @takeUp i hi =>
      have fewer := List.length_erase_of_mem hi
      have some := List.length_pos_of_mem hi
      simp only [fewer, List.length_append, List.length_singleton]
      omega
  | @send i o hi =>
      have fewer := List.length_erase_of_mem hi
      have some := List.length_pos_of_mem hi
      simp only [fewer, List.length_append, List.length_singleton]
      omega
  | @die i hi =>
      have fewer := List.length_erase_of_mem hi
      have some := List.length_pos_of_mem hi
      simp only [fewer]
      omega

/-- From wherever a batch is, a willing executor gets it to its end. -/
theorem Reaches.exists_finished {p : Progress} (h : Reaches executor jobs p)
    (willing : executor.Willing) : ∃ q, Reaches executor jobs q ∧
      Relation.ReflTransGen (Step executor jobs) p q ∧ q.stage = .finished := by
  by_cases finished : p.stage = .finished
  · exact ⟨p, h, .refl, finished⟩
  · obtain ⟨next, hstep⟩ := h.consistent.exists_step willing finished
    obtain ⟨q, hq, steps, hfinished⟩ := (h.step hstep).exists_finished willing
    exact ⟨q, hq, .head hstep steps, hfinished⟩
termination_by p.remaining jobs
decreasing_by exact hstep.remaining_lt

/-- A schedule goes on to its end, whatever jobs were taken up so far. -/
theorem TakesUp.exists_finished {taken : List Nat} (h : TakesUp executor jobs taken p)
    (willing : executor.Willing) :
    ∃ more q, TakesUp executor jobs (taken ++ more) q ∧ q.stage = .finished := by
  obtain ⟨q, -, steps, finished⟩ := h.reaches.exists_finished willing
  have goesOn : ∃ more, TakesUp executor jobs (taken ++ more) q := by
    clear finished
    induction steps with
    | refl => exact ⟨[], by rwa [List.append_nil]⟩
    | tail _ hstep ih =>
        obtain ⟨more, h⟩ := ih
        obtain ⟨further, h⟩ := h.exists_step hstep
        exact ⟨more ++ further, by rwa [← List.append_assoc]⟩
  obtain ⟨more, h⟩ := goesOn
  exact ⟨more, q, h, finished⟩

theorem handled_of_finished_pool :
    ∃ p, Reaches (.ofThreads 2) [some .success, none, some (.partialRun (some 1))] p ∧
      p.stage = .finished ∧ p.handled.count (2, .partialRun (some 1)) = 1 ∧ p.tally = ⟨1, 1, 1⟩ := by
  obtain ⟨p, reached, -, finished⟩ := Reaches.initial.exists_finished (willing_ofThreads 2)
  obtain ⟨once, successes, partials, failures, -, -⟩ := handled_of_finished reached finished
  refine ⟨p, reached, finished, once 2 _, ?_⟩
  cases htally : p.tally
  rw [htally] at successes partials failures
  subst successes partials failures
  rfl

end Batch

end CompileTree
