import CompileTree.CommandList
import CompileTree.Path

/-! # Invocations

A command as it is launched: a program with fixed arguments, and the arguments
that are handed over in a file. An extractor takes the program's place and is
told which program it stands in for.
-/

namespace CompileTree

/-- A launch of a program. -/
structure Invocation where
  /-- The program and the arguments that stand on its command line. -/
  command : List String
  /-- The arguments that are handed over in a file. -/
  arguments : List String
  deriving DecidableEq, Repr

namespace Invocation

/-- The invocation of the program that is the first word. -/
def ofWords (words : List String) : Invocation := ⟨words.take 1, words.drop 1⟩

/-- The invocation of an extractor in the program's place. -/
def mimickedBy (i : Invocation) (extractor : Path) : Invocation :=
  { i with command := extractor.text :: "--mimic" :: i.command }

/-- The program that is launched. -/
def program (i : Invocation) : String := i.command.headD "<empty>"

/-- Why a command has no invocation. -/
inductive Defect where
  | malformedQuoting (file : String)
  | emptyCommand (file : String)
  deriving DecidableEq, Repr

/-- The invocation of a command, by an extractor if one is given. -/
def ofCommand (extractor : Option Path) (c : Command) : Except Defect Invocation :=
  match c.words? with
  | none => .error (.malformedQuoting c.file)
  | some [] => .error (.emptyCommand c.file)
  | some words =>
    let i := ofWords words
    .ok (match extractor with
      | some e => i.mimickedBy e
      | none => i)

/-- The invocations of a list of commands, or the defect of the first that has none. -/
def ofCommands (extractor : Option Path) (commands : List Command) :
    Except Defect (List Invocation) :=
  commands.mapM (ofCommand extractor)

end Invocation

end CompileTree
