import CompileTree.Shell.Extended.Globs
import CompileTree.Shell.Expansion

/-! # Names of files that match a pattern with alternatives

A pattern with separators is followed directory by directory. A name that starts with a
dot is only found by a pattern that starts with one, or if that is asked for. Two
asterisks may stand for any number of directories.
-/

namespace CompileTree.Shell.Extended.Pathnames

open Files Text
open Shell.Pathnames (segments namesIn isThere)

/-- How names are matched. -/
structure Way where
  /-- Whether patterns may hold alternatives. -/
  extended : Bool
  /-- Whether case is ignored. -/
  fold : Bool
  /-- Whether names may start with a dot that the pattern does not have. -/
  hidden : Bool
  /-- Whether two asterisks stand for any directories. -/
  deep : Bool
  deriving DecidableEq, Repr

/-- Whether a part of a path is open. -/
def mayMatch (way : Way) (cs : Marked) : Bool :=
  (segments cs).any fun (_, segment) => (Glob.ofMarked way.extended segment).isOpen

/-- Whether a pattern may find names that start with a dot. -/
def opensHidden (p : Glob) : Bool :=
  match p with
  | .one '.' :: _ => true
  | _ => false

/-- Whether a path leads to a directory without following a link at its end. -/
def isDirectory (t : Tree) (p : Process) (path : String) : Bool :=
  match t.entry p.working false (Process.path path) with
  | .ok (_, .directory) => true
  | _ => false

/-- The directories below a path, and the path itself; `fuel` bounds how deep they stand. -/
def below (t : Tree) (p : Process) (way : Way) : Nat → String → List String
  | 0, before => [before]
  | fuel + 1, before =>
    let names := (namesIn t p before).filter fun name =>
      name != "." && name != ".." && (way.hidden || !name.startsWith ".")
    before :: (names.filter fun name => isDirectory t p (before ++ name)).flatMap fun name =>
      below t p way fuel (before ++ name ++ "/")

/-- How deep directories may stand. -/
def depthLimit : Nat := 100

/-- The paths behind a given one that match the parts of a pattern. -/
def matching (t : Tree) (p : Process) (way : Way) (before : String) :
    List (String × Marked) → List String
  | [] => if isThere t p before then [before] else []
  | (slashes, segment) :: rest =>
    let glob := Glob.ofMarked way.extended segment
    let before := before ++ slashes
    let isDeep := way.deep && (match glob with
      | [.many, .many] => true
      | _ => false)
    let found := (namesIn t p before).filter fun name =>
      (opensHidden glob || (!name.startsWith "." || (way.hidden && name != "." && name != ".."))) &&
        !(name = "." || name = "..") && glob.accepts way.fold name.toList
    if isDeep then
      let places := below t p way depthLimit before
      if rest.isEmpty then
        (if before = "" then [] else [before]) ++ places.flatMap fun place =>
          ((namesIn t p place).filter fun name => name != "." && name != ".." &&
            (way.hidden || !name.startsWith ".")).map (place ++ ·)
      else
        let rest := match rest with
          | (_, next) :: others => ("", next) :: others
          | [] => []
        (places.flatMap fun place => after t p place rest)
    else if glob.isOpen then found.flatMap fun name => matching t p way (before ++ name) rest
    else matching t p way (before ++ String.ofList glob.literal) rest
where
  /-- The paths behind a directory that match the parts of a pattern. -/
  after (t : Tree) (p : Process) (place : String) : List (String × Marked) → List String
    | [] => if isThere t p place then [place] else []
    | (slashes, segment) :: rest =>
      let glob := Glob.ofMarked way.extended segment
      let place := place ++ slashes
      if glob.isOpen then
        let found := (namesIn t p place).filter fun name =>
          (opensHidden glob || (!name.startsWith "." || way.hidden)) &&
            !(name = "." || name = "..") && glob.accepts way.fold name.toList
        found.flatMap fun name => after t p (place ++ name) rest
      else after t p (place ++ String.ofList glob.literal) rest

/-- The paths that match a pattern, in order. -/
def expand (t : Tree) (p : Process) (way : Way) (cs : Marked) : List String :=
  ((matching t p way "" (segments cs)).mergeSort fun a b => !(b < a)).eraseDups

end CompileTree.Shell.Extended.Pathnames
