import CompileTree.CommandList
import CompileTree.Machine

/-! # Stored command lists

Command lists are kept in files. What is stored is loaded again as it was.
-/

namespace CompileTree.CommandList

open Files

/-- Store commands in a file, in a directory that is made if need be. -/
def store (commands : List Command) (p : Path) : Task Failure Unit := do
  match p.parent? with
  | some parent =>
    if parent.text ≠ "" then
      Task.within (.creating parent) (Task.change (makeDirectories · parent))
  | none => pure ()
  Task.within (.writing p) (Task.writeFile p (toText commands).toUTF8)
  Task.say ("✓ Written " ++ p.text)

/-- The commands that are stored in a file. -/
def load (p : Path) : Task Failure (List Command) := do
  let text ← Task.within (.reading p) (Task.readText p)
  match ofText? text with
  | some commands => return commands
  | none => throw (.during (.parsingCommands p) .badCommandList)

end CompileTree.CommandList
