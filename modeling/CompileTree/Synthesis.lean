import CompileTree.CommandList
import CompileTree.Compiler
import CompileTree.Survey
import CompileTree.SourceKind
import CompileTree.SuffixIndex
import CompileTree.Text.NameSet

/-! # Command synthesis

Every source gets one command. First all names are looked up in the tree, source by
source; then a resolver is asked once, for all names together that the tree does not
have, and every source adds what is offered for its own ones.
-/

namespace CompileTree

/-- A command whose words are not quoted yet. -/
structure Spec where
  directory : Path
  file : Path
  words : List String
  output : String
  deriving DecidableEq, Repr

/-- What stands after the path of a source in the path of its output. -/
def outputSuffix : String := ".o"

/-- The command with its words quoted; none if a word holds a NUL. -/
def Spec.toCommand? (spec : Spec) : Option Command :=
  (Shell.quote? spec.words).map fun line =>
    { directory := spec.directory.text, line, output := spec.output, file := spec.file.text }

namespace Synthesis

/-- Directories offered for names, a name at most once. -/
abbrev Offers := List (String × List Path)

/-- Offers directories for a set of names. -/
abbrev Resolver (m : Type → Type) := List String → m Offers

/-- Directories without repetition, and the places they denote. -/
structure Gathered where
  directories : List Path
  seen : Path.Places

namespace Gathered

/-- No directories. -/
def empty : Gathered := ⟨[], .empty⟩

/-- Directories among which none repeats another. -/
def ofDirectories (directories : List Path) : Gathered :=
  ⟨directories, .ofList (directories.map (·, ()))⟩

/-- Add a directory, unless its place was seen. -/
def add (g : Gathered) (directory : Path) : Gathered :=
  if (g.seen.get? directory).isSome then g
  else ⟨g.directories ++ [directory], g.seen.insert directory ()⟩

/-- Add directories in turn. -/
def addAll (g : Gathered) (directories : List Path) : Gathered := directories.foldl add g

/-- Add what is offered for a name. -/
def addOffered (offers : Offers) (g : Gathered) (name : String) : Gathered :=
  g.addAll ((offers.lookup name).getD [])

end Gathered

/-- What the tree has for the names of a source. -/
structure Resolved where
  directories : List Path
  /-- The names that it does not have. -/
  missing : List String

/-- Look one more name up in the tree. -/
def lookUp (index : SuffixIndex) (found : Gathered × List String) (name : String) :
    Gathered × List String :=
  match index.directories name with
  | [] => (found.1, found.2 ++ [name])
  | directories => (found.1.addAll directories, found.2)

/-- Look names up in the tree. -/
def resolved (index : SuffixIndex) (names : List String) : Resolved :=
  let found := names.foldl (lookUp index) (.empty, [])
  ⟨found.1.directories, found.2⟩

/-- The search directories of a source, with what is offered for the names that the
    tree does not have. -/
def Resolved.searched (r : Resolved) (offers : Offers) : List Path :=
  (r.missing.foldl (Gathered.addOffered offers) (Gathered.ofDirectories r.directories)).directories

/-- The command for a source with the given search directories. -/
def spec (compiler : Compiler) (root source : Path) (directories : List Path) : Spec :=
  let start := if source.isC then compiler.cStart else compiler.cxxStart
  let output := source.text ++ outputSuffix
  { directory := root
    file := source
    words := start ++ directories.map compiler.searchFlag ++ compiler.outputFlags output ++
      compiler.sourceFlags source.text
    output }

/-- The commands of a scan, in the order of their sources. -/
def specs {m : Type → Type} [Monad m] (compiler : Compiler) (index : SuffixIndex)
    (resolver : Option (Resolver m)) (scan : Scan) : m (List Spec) := do
  let sources := scan.sources.paths.map fun s => (s, resolved index (scan.unresolvedFor s))
  match resolver with
  | some resolve =>
    let offers ← resolve (Text.nameSet (sources.flatMap (·.2.missing)))
    return sources.map fun s => spec compiler scan.root s.1 (s.2.searched offers)
  | none => return sources.map fun s => spec compiler scan.root s.1 s.2.directories

end Synthesis

end CompileTree
