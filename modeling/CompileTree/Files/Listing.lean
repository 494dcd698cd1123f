import CompileTree.Files.Lookup

/-! # Listings

A listing names files, one a line: a letter for the kind, a tab and the path. The
kinds are `d` for directories, `f` for files, `x` for files that may be run and
`l` for links, whose target follows after another tab.
-/

namespace CompileTree.Files

/-- What a listing tells of a file. -/
inductive Kind where
  | directory
  | file (executable : Bool)
  | link (target : String)
  deriving DecidableEq, Repr

/-- A line of a listing. -/
structure Listed where
  path : String
  kind : Kind
  deriving DecidableEq, Repr

namespace Listed

/-- The file that a line tells of. -/
def ofLine? (line : List Char) : Option Listed :=
  match (line.splitOn '\t').map String.ofList with
  | ["d", path] => some ⟨path, .directory⟩
  | ["f", path] => some ⟨path, .file false⟩
  | ["x", path] => some ⟨path, .file true⟩
  | ["l", path, target] => some ⟨path, .link target⟩
  | _ => none

/-- The place of a listed file, seen from the working directory. -/
def location (f : Listed) (working : Location) : Location :=
  (if isRooted f.path then [] else working) ++ (names f.path).filter (· ≠ ".")

/-- What stands at the place of a listed file that holds the given bytes. -/
def entry (f : Listed) (bytes : ByteArray) : Entry :=
  match f.kind with
  | .directory => .directory
  | .file executable => .file bytes executable
  | .link target => .link target

end Listed

/-- Let an entry stand at a place, with directories on the way where nothing stands. -/
def Tree.putDeep (t : Tree) (l : Location) (e : Entry) : Tree :=
  let way := (List.range l.length).map l.take
  (way.foldl (fun t k => if (t.get? k).isNone then t.put k .directory else t) t).put l e

/-- What stands in one tree and does not in another. -/
def Tree.changesSince (t before : Tree) : List (Location × Entry) :=
  t.entries.filter fun e => !(before.get? e.1).any e.2.isSame

end CompileTree.Files
