import CompileTree.CommandLine.Request
import CompileTree.Execution
import CompileTree.Generation
import CompileTree.Settings.InForce

/-! # Carrying out requests

A request is carried out step by step on a machine. Whatever is needed is checked
first: the root of the tree, the settings, the directories, and the compiler.
-/

namespace CompileTree.CommandLine

open Files

/-- The settings in force for the tree at a root. Filters in a file win over
    those that are given. -/
def settings (c : CommandLine) (root : Path) : Task Failure Settings := do
  let filters ← match c.filterFile with
    | some p => some <$> Task.within (.readingFilterFile p) (Task.readText p)
    | none => pure c.asked.filters
  Settings.inForce { c.asked with filters } root

/-- The absolute path of a root without links. -/
def realRoot (root : Path) : Task Failure Path :=
  Task.within (.findingRoot root) do
    Task.ofExcept (← Task.ask fun t working => t.canonical working root)

/-- Find the compiler, and tell what was found. -/
def findCompiler (s : Settings) : Task Failure Compiler := do
  try
    let compiler ← Compiler.discover s.compiler
    Task.say ("   🔧 Detected compiler: " ++ compiler.cxx.text)
    return compiler
  catch e =>
    Task.say ("x " ++ e.message)
    throw e

/-- The index of the tree at a root. -/
def indexOf (c : CommandLine) (root : Path) : Task Failure SuffixIndex := do
  let root ← realRoot root
  let settings ← c.settings root
  let filter ← Task.ofExcept ((Filter.ofText root settings.filters).mapError fun line =>
    .of (.badFilter line))
  Task.ask fun t working => SuffixIndex.ofTree t working root filter settings.followLinks

/-- Launch the commands of a list. -/
def runList (c : CommandLine) (extractor : Option Path) (list : Path) : Task Failure Unit := do
  let settings ← c.settings (Tree.pathOf (← getThe Machine).working)
  let context ← settings.launchContext
  let compiler ← findCompiler settings
  let _ ← Execution.runStored extractor compiler list settings.threads context

/-- Carry out what is asked for. -/
def carryOut (c : CommandLine) : Task Failure Unit := do
  match c.request with
  | .generate root list =>
    let root ← realRoot root
    let settings ← c.settings root
    let compiler ← findCompiler settings
    let _ ← Generation.generate root settings compiler (list.getD (root.join listName))
  | .run list => c.runList none list
  | .extract extractor list => c.runList (some extractor) list
  | .auto extractor root =>
    let root ← realRoot root
    let settings ← c.settings root
    let context ← settings.launchContext
    let list := (← settings.requireLogDirectory).join listName
    let compiler ← findCompiler settings
    let _ ← Generation.generate root settings compiler list
    let _ ← Execution.runStored (some extractor) compiler list settings.threads context
  | .lookup query root =>
    let index ← c.indexOf root
    match index.directories query with
    | [] => Task.say ("x No indexed path ends with '" ++ query ++ "'")
    | directories =>
      for d in directories do
        Task.say d.text
  | .paths root =>
    let index ← c.indexOf root
    for chain in index.chains do
      Task.say (Path.ofChain chain).text

/-- The exit code of a command line that is no request. -/
def usageCode : Nat := 2

/-- The exit code of a request that cannot be carried out. -/
def failureCode : Nat := 1

/-- The version of the program. -/
def version : String := "0.1.0"

/-- The line that tells the version of a command, named after those that it
    belongs to. -/
def versionLine (commands : List String) : String :=
  String.intercalate "-" commands ++ " " ++ version

/-- Carry out what arguments ask for; the exit code is returned. -/
def run (arguments : List String) : StateM Machine Nat := do
  let m ← get
  match ofArguments (fun name => m.environment.lookup name) arguments with
  | .error .misuse => return usageCode
  | .error (.version commands) =>
    let _ ← (Task.say (versionLine commands) : Task Failure Unit).run
    return 0
  | .ok c =>
    match ← c.carryOut.run with
    | .ok () => return 0
    | .error f =>
      let _ ← (Task.complain f.report : Task Failure Unit).run
      return failureCode

end CompileTree.CommandLine
