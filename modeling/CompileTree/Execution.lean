import CompileTree.Batch
import CompileTree.CommandList.Stored
import CompileTree.Launch

/-! # Running command lists

Every command of a list is launched once, whatever becomes of the others; a list
with a command that has no invocation is not run at all.
-/

namespace CompileTree.Execution

/-- Tell about an outcome: failed launches always, failed runs if asked. -/
def tell (verbose : Bool) (invocations : List Invocation) (number : Nat) (outcome : Outcome) :
    Task Failure Unit := do
  let wanted := match outcome with
    | .launchFailure _ => true
    | .partialRun _ => verbose
    | .success => false
  if wanted then
    match invocations[number]?.bind (Launch.describe · outcome) with
    | some line => Task.say line
    | none => return

/-- Launch all invocations. -/
def runAll (invocations : List Invocation) (threads : Nat) (compiler : Compiler)
    (context : LaunchContext) : Task Failure Tally := do
  let total := toString invocations.length
  Task.say ("Running " ++ total ++ " commands in " ++ toString threads ++ " threads")
  let tally ← Batch.run (tell context.verbose invocations)
    (invocations.map fun i => some <$> Launch.outcome i compiler context)
  Task.say ("Ran " ++ total ++ " commands " ++ tally.text)
  return tally

/-- The failure that a command without invocation is. -/
def defect : Invocation.Defect → Failure
  | .malformedQuoting file => .of (.malformedQuoting file)
  | .emptyCommand file => .of (.emptyCommand file)

/-- Launch the commands of a stored list, by an extractor if one is given. -/
def runStored (extractor : Option Path) (compiler : Compiler) (list : Path) (threads : Nat)
    (context : LaunchContext) : Task Failure Tally := do
  Task.say (if extractor.isSome then "▶ Extracting compile commands" else "▶ Running compile commands")
  let commands ← CommandList.load list
  let invocations ← Task.ofExcept ((Invocation.ofCommands extractor commands).mapError defect)
  runAll invocations threads compiler context

end CompileTree.Execution
