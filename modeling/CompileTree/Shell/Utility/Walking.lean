import CompileTree.Shell.Pattern
import CompileTree.Shell.Utility.Options

/-! # Walking through directories

What stands below a path, with the paths that lead there, each directory before what
it holds.
-/

namespace CompileTree.Shell.Utility

open Files Text

/-- A place that a walk comes to. -/
structure Visit where
  /-- The path that the walk has taken. -/
  path : String
  location : Location
  entry : Entry
  /-- How far below the start it is. -/
  depth : Nat
  /-- Whether everything below it has been visited. -/
  leaves : Bool

/-- The path of a file in a directory. -/
def inside (directory name : String) : String :=
  if directory.endsWith "/" then directory ++ name else directory ++ "/" ++ name

/-- The last name of a path. -/
def lastName (path : String) : String :=
  match (names path).getLast? with
  | some name => name
  | none => if path.startsWith "/" then "/" else path

/-- What a walk comes to from a place on. `enters` tells which directories are entered, and
    `seen` holds those that are being walked; `fuel` bounds the depth. -/
def visitsWithin (t : Tree) (followsLinks : Bool) (enters : Visit → Bool) :
    Nat → List Location → Visit → List Visit
  | 0, _, _ => []
  | fuel + 1, seen, v =>
    let target? : Option (Location × Entry) := match v.entry with
      | .link _ =>
        if followsLinks then (t.entry v.location.dropLast true ⟨v.location.getLastD ""⟩).toOption
        else none
      | _ => none
    let v := match target? with
      | some (l, e) => { v with location := l, entry := e }
      | none => v
    match v.entry with
    | .directory =>
      if seen.contains v.location then []
      else
        let inner := if enters v then
            (t.children v.location).flatMap fun (name, e) =>
              visitsWithin t followsLinks enters fuel (v.location :: seen)
                ⟨inside v.path (spread name), v.location ++ [name], e, v.depth + 1, false⟩
          else []
        v :: inner ++ [{ v with leaves := true }]
    | _ => [v]

/-- What a walk comes to from a place on, which stands under a path. -/
def visits (t : Tree) (followsLinks : Bool) (enters : Visit → Bool) (path : String)
    (l : Location) (e : Entry) : List Visit :=
  visitsWithin t followsLinks enters (t.entries.length + 2) [] ⟨path, l, e, 0, false⟩

/-- Whether a pattern for names, as a text spells it, stands for a name. -/
def matchesName (pattern name : String) : Bool :=
  let rec mark : List Char → Marked
    | '\\' :: c :: cs => (c, true) :: mark cs
    | c :: cs => (c, false) :: mark cs
    | [] => []
  (Pattern.ofMarked (mark pattern.toList)).accepts name.toList

end CompileTree.Shell.Utility
