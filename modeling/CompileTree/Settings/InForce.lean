import CompileTree.Launch
import CompileTree.Settings

/-! # Settings of a tree

The settings stored with a tree are read if there are any, and combined with
what the user asks for. Directories that a task needs are checked before any
work starts.
-/

namespace CompileTree

/-- The settings stored at the root of a tree. -/
def StoredSettings.load (root : Path) : Task Failure StoredSettings := do
  let p := root.join ⟨fileName⟩
  if ← Task.ask fun t working => t.isPresent working p then
    let text ← Task.within (.reading p) (Task.readText p)
    match ofText? text with
    | some stored => return stored
    | .none => throw (.during (.parsingSettings p) .badSettings)
  else return .none

/-- The given path, if it is set and leads to a directory. -/
def requireDirectory (name : String) (value : Option Path) : Task Failure Path := do
  match value with
  | none => throw (.of (.unset name))
  | some p =>
    if ← Task.ask fun t working => t.isDirectory working p then return p
    else throw (.of (.notADirectory name p))

namespace Settings

/-- The settings in force for the tree at a root. -/
def inForce (asked : Overrides) (root : Path) : Task Failure Settings := do
  let stored ← StoredSettings.load root
  Task.ofExcept ((resolve asked stored).mapError fun name => .of (.unknownCompiler name))

/-- The directory for logs. -/
def requireLogDirectory (s : Settings) : Task Failure Path :=
  requireDirectory "BUILDLESS_LOG_DIR" s.logDirectory

/-- Where launches keep their files; logs are not needed for verbose launches. -/
def launchContext (s : Settings) : Task Failure LaunchContext := do
  let scratchDirectory ← requireDirectory "BUILDLESS_SCRATCH_DIR" s.scratchDirectory
  if s.verbose then return { scratchDirectory, logDirectory := none, verbose := true }
  else return { scratchDirectory, logDirectory := some (← s.requireLogDirectory), verbose := false }

end Settings

end CompileTree
