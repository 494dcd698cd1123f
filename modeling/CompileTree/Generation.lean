import CompileTree.CommandList.Stored
import CompileTree.Settings
import CompileTree.SystemIncludes

/-! # Generating command lists

The tree is surveyed, every source gets its command, and the list of commands is
stored. Nothing is stored unless all of this succeeds.
-/

namespace CompileTree

/-- A span of time with two decimals, in the largest unit that leaves a whole part. -/
def durationText (nanoseconds : Nat) : String :=
  if 1000000000 ≤ nanoseconds then decimals 1000000000 "s"
  else if 1000000 ≤ nanoseconds then decimals 1000000 "ms"
  else if 1000 ≤ nanoseconds then decimals 1000 "µs"
  else decimals 1 "ns"
where
  decimals (unit : Nat) (name : String) : String :=
    let hundredths := (nanoseconds * 100 + unit / 2) / unit
    toString (hundredths / 100) ++ "." ++ toString (hundredths / 10 % 10) ++
      toString (hundredths % 10) ++ name

namespace Generation

/-- Quote the words of every command. -/
def quoteAll (specs : List Spec) : Except Failure (List Command) :=
  specs.mapM fun s =>
    match s.toCommand? with
    | some c => .ok c
    | none => .error (.during (.quoting s.file) .unquotable)

/-- Survey a tree with a filter, and tell which files could not be read. -/
def survey {ε : Type} (root : Path) (filter : Filter) (followLinks : Bool) : Task ε Survey := do
  let s ← Task.ask fun t working => Survey.ofTree t working root filter followLinks
  for (p, e) in s.unread do
    Task.say ("   ! Could not read " ++ p.text ++ ": " ++ e.message)
  return s

/-- The commands for the tree below a root. -/
def commands (root : Path) (settings : Settings) (compiler : Compiler) :
    Task Failure (List Command) := do
  let filter ← Task.ofExcept ((Filter.ofText root settings.filters).mapError fun line =>
    .during .readingFilters (.badFilter line))
  let found ← survey root filter settings.followLinks
  let scan ← Task.ask fun t working => found.scan (t.isFile working) root
  if scan.sources.paths.isEmpty then Task.say "! No source files found."
  else
    Task.say ("   🔍 Found " ++ toString scan.sources.paths.length ++ " source files, " ++
      toString found.index.size ++ " distinct file names")
  let resolver ←
    if settings.systemIncludes then do
      Task.say "🔎 Scanning system directories"
      let directories ← SystemIncludes.directoriesOf compiler settings.verbose
      pure (some (SystemIncludes.resolve directories settings.verbose))
    else pure none
  Task.ofExcept (quoteAll (← Synthesis.specs compiler found.index resolver scan))

/-- Generate and store the commands for the tree below a root. -/
def generate (root : Path) (settings : Settings) (compiler : Compiler) (list : Path) :
    Task Failure (List Command) := do
  let started ← Task.time
  Task.say "⚙ Generating compilation commands..."
  let commands ← commands root settings compiler
  CommandList.store commands list
  let elapsed := (← Task.time) - started
  Task.say ("✓ Generated " ++ toString commands.length ++ " commands in " ++ durationText elapsed)
  return commands

end Generation

end CompileTree
