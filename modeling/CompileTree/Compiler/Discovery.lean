import CompileTree.Path
import CompileTree.Text.Lines
import CompileTree.Compiler
import CompileTree.Machine
import CompileTree.Text.Utf8

/-! # Finding a compiler

Compilers are sought in the directories of the search path. The cl compiler is
taken unless clang is preferred; clang needs both its programs, and where they
are missing cl is taken all the same.
-/

/-! ## Reported search directories

What a clang compiler reports about itself holds the list of directories in
which it seeks included files, one a line between two marks.
-/

namespace CompileTree.Compiler

/-- The line before the list starts with this. -/
def listStart : List Char := "#include <...> search starts here:".toList

/-- The line after the list starts with this. -/
def listEnd : List Char := "End of search list.".toList

/-- What may stand after a directory. -/
def frameworkNote : List Char := " (framework directory)".toList

/-- The directory on a line of the list; none on a blank line. -/
def listed? (line : List Char) : Option Path :=
  match Text.dropSuffixes frameworkNote (Text.trim line) with
  | [] => none
  | entry => some ⟨String.ofList entry⟩

/-- The directories on the lines that are left; `inList` once the list has begun. -/
def entries (inList : Bool) : List (List Char) → List Path
  | [] => []
  | line :: rest =>
    if listStart.isPrefixOf line then entries true rest
    else if listEnd.isPrefixOf line then []
    else if inList then (listed? line).toList ++ entries true rest
    else entries false rest

/-- The directories that a report lists. -/
def searchList (report : String) : List Path := entries false (Text.lines report.toList)

/-! ## Finding programs -/

open Files

/-- The first file of a name in a list of directories. -/
def findIn (t : Tree) (working : Location) (directories : List Path) (name : String) : Option Path :=
  (directories.map (·.join ⟨name⟩)).find? (t.isFile working)

/-- The file of a name in the directories of the search path. -/
def find? {ε : Type} (name : String) : Task ε (Option Path) := do
  match ← Task.valueOf "PATH" with
  | none => return none
  | some searchPath =>
    Task.ask fun t working => findIn t working (Shell.searchDirectories searchPath) name

/-- The compiler to take of those that were found. -/
def choose (preferred : Option Family) (cl c cxx : Option Path) : Option Compiler :=
  match cl, c, cxx with
  | some cl, some c, some cxx =>
    if preferred = some .clang then some (.clang c cxx) else some (.msvc cl)
  | none, some c, some cxx => some (.clang c cxx)
  | some cl, _, _ => some (.msvc cl)
  | none, _, _ => none

/-- Find a compiler. -/
def discover (preferred : Option Family) : Task Failure Compiler := do
  match choose preferred (← find? "cl") (← find? "clang") (← find? "clang++") with
  | some compiler => return compiler
  | none => throw (.of .noCompiler)

/-- The arguments with which a clang compiler tells its search directories. -/
def queryArguments : List String := ["-E", "-x", "c++", "-", "-v"]

/-- The directories that are searched where a compiler tells none. -/
def usualDirectories : List Path := [⟨"/usr/local/include"⟩, ⟨"/usr/include"⟩]

/-- The directories in which a compiler seeks included files. -/
def toldDirectories {ε : Type} : Compiler → Task ε (List Path)
  | .clang _ cxx => do
    match ← Task.capture .captured cxx.text queryArguments with
    | .ok done =>
      let chunks := done.written.filterMap fun (stream, bytes) =>
        if stream = .errors then some bytes else none
      return searchList (Text.Utf8.decodeLossy (chunks.foldl (· ++ ·) ByteArray.empty))
    | .error _ => return []
  | .msvc _ => do
    match ← Task.valueOf "INCLUDE" with
    | some directories => return Shell.searchDirectories directories
    | none => return []

/-- The directories in which a compiler seeks included files, or the usual ones
    that are there. -/
def systemDirectories {ε : Type} (compiler : Compiler) : Task ε (List Path) := do
  match ← toldDirectories compiler with
  | [] => Task.ask fun t working => usualDirectories.filter (t.isDirectory working)
  | directories => return directories

end CompileTree.Compiler
