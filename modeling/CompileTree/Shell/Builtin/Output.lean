import CompileTree.Shell.Builtin.Arguments
import CompileTree.Shell.Condition
import CompileTree.Shell.Formatted

/-! # Commands that write or answer

Texts and formats are written, and conditions are answered.
-/

namespace CompileTree.Shell.Builtin

open Run

/-- Write the arguments. -/
def echo : Action := fun _ arguments => do
  match arguments with
  | "-n" :: rest => say (Formatted.echo true false rest)
  | all => say (Formatted.echo true true all)
  return 0

/-- What is told of a fault in a format. -/
def formatFault : Formatted.Fault → String
  | .noNumber a => a ++ ": expected numeric value"
  | .partlyNumber a => a ++ ": not completely converted"
  | .outOfRange a => a ++ ": Numerical result out of range"
  | .badDirective d => d ++ ": invalid directive"
  | .missingCharacter => "missing format character"

/-- Write a format. -/
def printf : Action := fun _ arguments => do
  match ← noOptions arguments with
  | [] => fault "usage: printf format [arg ...]" 2
  | format :: arguments =>
    let (text, faults) := Formatted.print .double format arguments
    for (_, f) in faults do
      if f.stops then
        say text
        fault (formatFault f) 2
      else complain (formatFault f)
    say text
    return if faults.isEmpty then 0 else 1

/-- What is told of a fault in a condition. -/
def conditionFault : Condition.Fault → String
  | .missingBracket => "missing ]"
  | .unexpected last _ => (if last = "" then "" else last ++ ": ") ++ "unexpected operator"
  | .argumentExpected word => word ++ ": argument expected"
  | .unclosed => "closing paren expected"
  | .noNumber word => "Illegal number: " ++ word

/-- Answer a condition. -/
def test (name : String) : Action := fun _ arguments => do
  let p := (← get).process
  match Condition.ofArguments (← getThe System).files p name arguments with
  | .ok true => return 0
  | .ok false => return 1
  | .error f => fault (conditionFault f) 2

end CompileTree.Shell.Builtin
