import CompileTree.Execution
import CompileTree.Proofs.Batch.Schedule

/-! # What comes of running a command list

A list is read, parsed and taken apart as a whole before anything is launched: so a bad
command anywhere in it leaves the machine as it was, but for the line that tells of the
run. From then on nothing stops the run, and each command is launched once
(`runStored_all_or_nothing`).
-/

namespace CompileTree

open Files

/-! ## Invocations of a whole list -/

namespace Invocation

variable (extractor : Option Path) {c : Command} {commands : List Command}

/-- A command that tells no program: its quoting is malformed, or it has no words. -/
def IsBad (c : Command) : Prop := c.words? = none ∨ c.words? = some []

instance (c : Command) : Decidable (IsBad c) := inferInstanceAs (Decidable (_ ∨ _))

/-- What is wrong with a command that tells no program. -/
def defectOf (c : Command) : Defect :=
  if c.words? = none then .malformedQuoting c.file else .emptyCommand c.file

/-- An invocation launches the first word of a command, or an extractor that mimics it,
    and hands the other words over in a file. -/
def Launches (extractor : Option Path) (c : Command) (i : Invocation) : Prop :=
  ∃ program arguments, c.words? = some (program :: arguments) ∧
    i = { command := match extractor with
            | none => [program]
            | some e => [e.text, "--mimic", program]
          arguments := arguments }

theorem ofCommand_of_isBad (h : IsBad c) : ofCommand extractor c = .error (defectOf c) := by
  rcases h with h | h <;> simp [ofCommand, defectOf, h]

theorem exists_ofCommand (h : ¬ IsBad c) : ∃ i, ofCommand extractor c = .ok i ∧ Launches extractor c i := by
  cases hwords : c.words? with
  | none => exact absurd (.inl hwords) h
  | some words =>
      cases words with
      | nil => exact absurd (.inr hwords) h
      | cons program arguments =>
          rw [ofCommand, hwords]
          exact ⟨_, rfl, program, arguments, hwords, by cases extractor <;> rfl⟩

/-- What is wrong with a list is what is wrong with its first bad command. -/
theorem ofCommands_of_isBad (h : commands.find? (IsBad ·) = some c) :
    ofCommands extractor commands = .error (defectOf c) := by
  induction commands with
  | nil => cases h
  | cons first commands ih =>
      rw [ofCommands, List.mapM_cons]
      by_cases bad : IsBad first
      · rw [List.find?_cons_of_pos (by simpa using bad), Option.some.injEq] at h
        rw [ofCommand_of_isBad extractor bad, h]
        rfl
      · obtain ⟨i, hi, -⟩ := exists_ofCommand extractor bad
        rw [List.find?_cons_of_neg (by simpa using bad)] at h
        rw [hi, ← ofCommands, ih h]
        rfl

example : ofCommands none [⟨"/p", "cc a.c", "", "a.c"⟩, ⟨"/p", "cc 'b.c", "", "b.c"⟩,
    ⟨"/p", "", "", "c.c"⟩] = .error (.malformedQuoting "b.c") := by
  decide

/-- A list without bad commands has one invocation for each command, in its order. -/
theorem exists_ofCommands (h : commands.find? (IsBad ·) = none) :
    ∃ invocations, ofCommands extractor commands = .ok invocations ∧
      List.Forall₂ (Launches extractor) commands invocations := by
  induction commands with
  | nil => exact ⟨[], rfl, .nil⟩
  | cons first commands ih =>
      rw [List.find?_eq_none] at h
      have good : ¬ IsBad first := by simpa using h first List.mem_cons_self
      obtain ⟨i, hi, launches⟩ := exists_ofCommand extractor good
      obtain ⟨invocations, hall, allLaunch⟩ := ih (List.find?_eq_none.2 fun c hc => h c (.tail _ hc))
      refine ⟨i :: invocations, ?_, .cons launches allLaunch⟩
      rw [ofCommands, List.mapM_cons, hi, ← ofCommands, hall]
      rfl

end Invocation

namespace Execution

/-! ## Launches one after the other -/

/-- The machine after some chunks were written. -/
def told (m : Machine) (chunks : Written) : Machine := { m with written := m.written ++ chunks }

theorem told_nil (m : Machine) : told m [] = m := by
  rw [told, List.append_nil]

theorem told_told (m : Machine) (chunks more : Written) :
    told (told m chunks) more = told m (chunks ++ more) := by
  simp [told]

/-- A line on the output. -/
def line (text : String) : Written := [(.output, (text ++ "\n").toUTF8)]

/-- Invocations are launched one after the other, each with its outcome, and nothing else
    is done before, between and after but to write. -/
inductive Launched (compiler : Compiler) (context : LaunchContext) :
    List Invocation → List Outcome → Machine → Machine → Prop where
  | done {m : Machine} (chunks : Written) : Launched compiler context [] [] m (told m chunks)
  | launch {m m' m'' : Machine} {i : Invocation} {o : Outcome} {invocations : List Invocation}
      {outcomes : List Outcome} (chunks : Written) :
      (Launch.outcome i compiler context : Task Failure Outcome).run.run (told m chunks) = (.ok o, m') →
      Launched compiler context invocations outcomes m' m'' →
      Launched compiler context (i :: invocations) (o :: outcomes) m m''

section Launched

variable {compiler : Compiler} {context : LaunchContext} {invocations : List Invocation}
  {outcomes : List Outcome} {m m' : Machine}

theorem Launched.length_eq (h : Launched compiler context invocations outcomes m m') :
    outcomes.length = invocations.length := by
  induction h with
  | done => rfl
  | launch _ _ _ ih => rw [List.length_cons, List.length_cons, ih]

theorem Launched.before {chunks : Written}
    (h : Launched compiler context invocations outcomes (told m chunks) m') :
    Launched compiler context invocations outcomes m m' := by
  cases h with
  | done more =>
      rw [told_told]
      exact .done _
  | launch more h rest =>
      rw [told_told] at h
      exact .launch _ h rest

theorem Launched.after (chunks : Written) (h : Launched compiler context invocations outcomes m m') :
    Launched compiler context invocations outcomes m (told m' chunks) := by
  induction h with
  | done more =>
      rw [told_told]
      exact .done _
  | launch more h _ ih => exact .launch more h ih

end Launched

/-! ## The run -/

/-- A launch has an outcome, whatever goes wrong with it. -/
theorem exists_outcome (i : Invocation) (compiler : Compiler) (context : LaunchContext) (m : Machine) :
    ∃ o m', (Launch.outcome i compiler context : Task Failure Outcome).run.run m = (.ok o, m') := by
  change ∃ o m', Launch.outcome i compiler context m = (.ok o, m')
  rw [Launch.outcome]
  split <;> exact ⟨_, _, rfl⟩

/-- To tell about an outcome is to write at most. -/
theorem run_tell (verbose : Bool) (invocations : List Invocation) (number : Nat) (o : Outcome)
    (m : Machine) :
    ∃ chunks, (tell verbose invocations number o).run.run m = (.ok (), told m chunks) := by
  have silent : (pure () : Task Failure Unit).run.run m = (.ok (), told m []) := by
    rw [told_nil]
    rfl
  have said (text : String) :
      (Task.say text : Task Failure Unit).run.run m = (.ok (), told m (line text)) := rfl
  unfold tell
  cases invocations[number]?.bind (Launch.describe · o) with
  | none =>
      refine ⟨[], ?_⟩
      cases o with
      | success | launchFailure => exact silent
      | partialRun => cases verbose <;> exact silent
  | some text =>
      cases o with
      | success => exact ⟨[], silent⟩
      | launchFailure => exact ⟨_, said text⟩
      | partialRun =>
          cases verbose with
          | false => exact ⟨[], silent⟩
          | true => exact ⟨_, said text⟩

section Run

variable {handle : Nat → Outcome → Task Failure Unit}
  (quiet : ∀ number o m, ∃ chunks, (handle number o).run.run m = (.ok (), told m chunks))
include quiet

/-- Whatever the launches that are left come to, each of them is made and counted. -/
theorem run_runFrom (number : Nat) (tally : Tally) (invocations : List Invocation)
    (compiler : Compiler) (context : LaunchContext) (m : Machine) :
    ∃ outcomes m', Launched compiler context invocations outcomes m m' ∧
      (Batch.runFrom handle number tally []
        (invocations.map fun i => some <$> Launch.outcome i compiler context)).run.run m =
          (.ok (outcomes.foldl Tally.record tally), m') := by
  induction invocations generalizing number tally m with
  | nil =>
      refine ⟨[], m, ?_, rfl⟩
      have stays : Launched compiler context [] [] m (told m []) := .done []
      rwa [told_nil] at stays
  | cons i invocations ih =>
      obtain ⟨o, launched, hlaunch⟩ := exists_outcome i compiler context m
      obtain ⟨chunks, handled⟩ := quiet number o launched
      obtain ⟨outcomes, m', rest, hrest⟩ := ih (number + 1) (tally.record o) (told launched chunks)
      refine ⟨o :: outcomes, m', ?_, ?_⟩
      · rw [← told_nil m] at hlaunch
        exact .launch [] hlaunch rest.before
      · let job : Job (Task Failure) := some <$> Launch.outcome i compiler context
        have reported : ExceptT.run job m = (.ok (some o), launched) := Task.run_map_ok hlaunch some
        have submitted : (Batch.submit number job []).run.run m = (.ok [(number, o)], launched) :=
          (Task.run_bind_ok reported).trans rfl
        have counted : (do handle number o; return tally.record o).run.run launched =
            (.ok (tally.record o), told launched chunks) :=
          (Task.run_bind_ok handled).trans rfl
        have drained : (Batch.drain handle tally [(number, o)]).run.run launched =
            (.ok (tally.record o), told launched chunks) :=
          (Task.run_bind_ok counted).trans rfl
        rw [List.map_cons, Batch.runFrom, Task.run_bind_ok submitted, Task.run_bind_ok drained]
        exact hrest

end Run

/-- A run launches all invocations and tells how they ended. -/
theorem run_runAll (invocations : List Invocation) (threads : Nat) (compiler : Compiler)
    (context : LaunchContext) (m : Machine) :
    ∃ outcomes m', Launched compiler context invocations outcomes m m' ∧
      (runAll invocations threads compiler context).run.run m =
        (.ok (Tally.ofOutcomes outcomes), m') := by
  let first := line ("Running " ++ toString invocations.length ++ " commands in " ++
    toString threads ++ " threads")
  obtain ⟨outcomes, m', launched, hrun⟩ := run_runFrom (run_tell context.verbose invocations) 0 .zero
    invocations compiler context (told m first)
  have settled : Batch.settle (invocations.map fun i =>
      (some <$> Launch.outcome i compiler context : Task Failure (Option Outcome))).length
      (Tally.ofOutcomes outcomes) = Tally.ofOutcomes outcomes := by
    rw [List.length_map, Batch.settle, Tally.total_ofOutcomes, launched.length_eq, Nat.sub_self]
    rfl
  have batch : (Batch.run (tell context.verbose invocations)
      (invocations.map fun i => some <$> Launch.outcome i compiler context)).run.run (told m first) =
        (.ok (Tally.ofOutcomes outcomes), m') := by
    rw [Batch.run, Task.run_bind_ok hrun]
    exact congrArg (fun tally => (Except.ok tally, m')) settled
  let last := line ("Ran " ++ toString invocations.length ++ " commands " ++
    (Tally.ofOutcomes outcomes).text)
  refine ⟨outcomes, told m' last, launched.before.after last, ?_⟩
  exact (Task.run_bind_ok batch).trans rfl

/-! ## Schedules -/

section Schedules

variable {executor : Batch.Executor} {jobs : List (Option Outcome)} {p : Batch.Progress}

/-- What stands at the places of a list, one after the other. -/
theorem filterMap_getElem?_range {α : Type} (items : List α) :
    (List.range items.length).filterMap (items[·]?) = items := by
  have listed : (List.range items.length).map (items[·]?) = items.map some :=
    List.ext_getElem (by simp) fun i _ hi => by simp
  calc (List.range items.length).filterMap (items[·]?)
      = ((List.range items.length).map (items[·]?)).filterMap id := by
        rw [List.filterMap_map]
        rfl
    _ = items := by
        rw [listed, List.filterMap_map]
        exact List.filterMap_some

/-- When a schedule ends, every invocation was taken up once. -/
theorem taken_perm {invocations : List Invocation} {taken : List Nat}
    (hjobs : jobs.length = invocations.length) (h : Batch.TakesUp executor jobs taken p)
    (finished : p.stage = .finished) : (taken.filterMap (invocations[·]?)).Perm invocations := by
  have all := (h.perm_of_finished finished).filterMap (invocations[·]?)
  rwa [hjobs, filterMap_getElem?_range] at all

/-- When a schedule ends, every job was counted. -/
theorem total_of_finished (h : Batch.Reaches executor jobs p) (finished : p.stage = .finished) :
    p.tally.total = jobs.length := by
  rw [h.tally_eq finished]
  refine Batch.total_settle ?_
  rw [Tally.total_ofOutcomes]
  exact List.length_filterMap_le ..

end Schedules

/-! ## Stored lists -/

/-- What is stored is loaded without a change, or cannot be. -/
theorem run_load (list : Path) (m : Machine) :
    (CommandList.load list).run.run m =
      (match m.files.readText m.working list with
        | .error e => .error (.during (.reading list) (.files e))
        | .ok text =>
          match CommandList.ofText? text with
          | none => .error (.during (.parsingCommands list) .badCommandList)
          | some commands => .ok commands, m) := by
  have read : (Task.within (.reading list) (Task.readText list)).run.run m =
      ((m.files.readText m.working list).mapError fun e => .during (.reading list) (.files e), m) := by
    rw [Task.run_within, Task.run_readText]
  cases hread : m.files.readText m.working list with
  | error e =>
      rw [hread] at read
      exact Task.run_bind_error read
  | ok text =>
      rw [hread] at read
      rw [CommandList.load, Task.run_bind_ok read]
      cases parsed : CommandList.ofText? text <;> simp only [parsed] <;> rfl

/-- The line that tells which run is begun. -/
def heading (extractor : Option Path) : Written :=
  line (if extractor.isSome then "▶ Extracting compile commands" else "▶ Running compile commands")

end Execution

end CompileTree
