import CompileTree.Compiler.Discovery
import CompileTree.Survey
import CompileTree.Synthesis

/-! # System include directories

Names that the tree does not have are sought below the directories in which the
compiler looks anyway. A name that stands directly in one of them needs nothing;
any other name is offered the directories below them from which it names a file.
-/

namespace CompileTree.SystemIncludes

open Files

/-- How many levels below a system directory are indexed. -/
def indexDepth : Nat := 4

/-- The index of a system directory. -/
def index (t : Tree) (working : Location) (directory : Path) : SuffixIndex :=
  Survey.indexFiles directory
    ((t.filesWithin working directory false indexDepth).filter (Filter.everything directory).includes)

/-- The names that stand in none of the directories. -/
def pending (isFile : Path → Bool) (directories : List Path) (names : List String) : List String :=
  names.filter fun n => !directories.any fun d => isFile (d.join ⟨n⟩)

/-- A directory from which a name names a file. -/
abbrev Finding := String × Path

/-- Add a finding, unless the name has the place already. -/
def addFinding (found : List Finding) (f : Finding) : List Finding :=
  if found.any fun g => g.1 == f.1 && g.2.same f.2 then found else found ++ [f]

/-- What the indexes of the directories offer for names, in the order in which it
    is found: directory by directory, and name by name in each. -/
def findings (indexes : List SuffixIndex) (names : List String) : List Finding :=
  (indexes.flatMap fun i => names.flatMap fun n => (i.directories n).map (n, ·)).foldl addFinding []

/-- The directories that findings offer for each name. -/
def offers (names : List String) (found : List Finding) : Synthesis.Offers :=
  names.filterMap fun n =>
    match found.filterMap fun f => if f.1 = n then some f.2 else none with
    | [] => none
    | directories => some (n, directories)

/-- What is found below the directories for names. -/
def search (t : Tree) (working : Location) (directories : List Path) (names : List String) :
    List String × List Finding :=
  match pending (t.isFile working) directories names with
  | [] => ([], [])
  | names => (names, findings (directories.map (index t working)) names)

/-- Offer directories for names; every finding is told if asked. -/
def resolve {ε : Type} (directories : List Path) (verbose : Bool) : Synthesis.Resolver (Task ε) :=
  fun names => do
    let (names, found) ← Task.ask fun t working => search t working directories names
    if verbose then
      for f in found do
        Task.say ("   + " ++ f.1 ++ " -> " ++ f.2.text)
    return offers names found

/-- The system directories of a compiler; they are told if asked. -/
def directoriesOf {ε : Type} (compiler : Compiler) (verbose : Bool) : Task ε (List Path) := do
  let directories ← compiler.systemDirectories
  if verbose then
    for d in directories do
      Task.say ("   🔎 System include dir: " ++ d.text)
  return directories

end CompileTree.SystemIncludes
