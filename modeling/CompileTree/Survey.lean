import CompileTree.Files.Walk
import CompileTree.Filter
import CompileTree.Include.Walk
import CompileTree.Path.Table
import CompileTree.SourceKind
import CompileTree.Text.Utf8

/-! # Surveying a tree

A survey walks a tree once: every file that the filter includes is indexed by
its name, and sources and headers are read for their include directives. One that
cannot be read is indexed all the same, and has no directives.
-/

/-! ## What a scan finds

The sources of a tree and, for each of them, the names of the files it asks for
that only a search directory can provide.
-/

namespace CompileTree

/-- The findings of a scan below a root. -/
structure Scan where
  root : Path
  sources : Path.Places
  unresolved : Path.Table (List String)

namespace Scan

/-- Nothing found. -/
def empty : Scan := ⟨⟨""⟩, .empty, .empty⟩

/-- The names a source needs search directories for. -/
def unresolvedFor (scan : Scan) (source : Path) : List String :=
  (scan.unresolved.get? source).getD []

end Scan

/-! ## Surveys -/

open Files

/-- What a survey finds. -/
structure Survey where
  index : SuffixIndex
  directives : Include.DirectiveTable
  sources : Path.Places
  /-- The sources and headers that could not be read, in the order of the walk. -/
  unread : List (Path × Error)

namespace Survey

/-- Nothing surveyed. -/
def empty : Survey := ⟨.empty, .empty, .empty, []⟩

/-- Index files of a tree by how they are spelled from its root. -/
def indexFiles (root : Path) (files : List Path) : SuffixIndex :=
  (files.filterMap root.relativeName?).foldl (fun index name => index.insert name root.text) .empty

/-- Add one file with its bytes to what was read of sources and headers. -/
def readFile (s : Survey) (p : Path) (bytes : ByteArray) : Survey :=
  { s with
    directives := s.directives.insert p (Include.directives (Text.Utf8.decodeLossy bytes))
    sources := if p.isSource then s.sources.insert p () else s.sources }

/-- Add one file with its bytes, or why they cannot be read. -/
def addFile (s : Survey) (p : Path) : Except Error ByteArray → Survey
  | .ok bytes => s.readFile p bytes
  | .error e => { s with unread := s.unread ++ [(p, e)] }

/-- The survey of the given files, whose bytes are looked up as needed. -/
def ofFiles (root : Path) (files : List Path) (bytes : Path → Except Error ByteArray) : Survey :=
  (files.filter fun p => p.isSource || p.isHeader).foldl (fun s p => s.addFile p (bytes p))
    { empty with index := indexFiles root files }

/-- The survey of the tree below a root. -/
def ofTree (t : Tree) (working : Location) (root : Path) (filter : Filter) (followLinks : Bool) :
    Survey :=
  ofFiles root ((t.files working root followLinks).filter filter.includes) (t.read working)

/-- The names for which a source needs search directories. -/
def unresolved (s : Survey) (isFile : Path → Bool) (source : Path) : List String :=
  Include.unresolved isFile s.index s.directives source

/-- What the survey finds for every source. -/
def scan (s : Survey) (isFile : Path → Bool) (root : Path) : Scan :=
  { root, sources := s.sources
    unresolved := s.sources.mapWithPath fun source _ => s.unresolved isFile source }

end Survey

namespace SuffixIndex

/-- Index a file that a walk yields by how it is spelled from the root, if the filter
    includes it. -/
def visit (root : Path) (filter : Filter) (index : SuffixIndex) (p : Path) : SuffixIndex :=
  if filter.includes p then
    match root.relativeName? p with
    | some name => index.insert name root.text
    | none => index
  else index

/-- Index the files of a walk in place of what was indexed. -/
def refill (index : SuffixIndex) (root : Path) (filter : Filter) (walked : List Path) :
    SuffixIndex :=
  walked.foldl (visit root filter) index.clear

/-- The index of the files below a root. -/
def ofTree (t : Tree) (working : Location) (root : Path) (filter : Filter) (followLinks : Bool) :
    SuffixIndex :=
  empty.refill root filter (t.files working root followLinks)

end SuffixIndex

end CompileTree
