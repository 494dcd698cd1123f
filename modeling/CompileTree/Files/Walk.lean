import CompileTree.Files.Lookup

/-! # Walking a tree of files

A walk lists the files below a directory with their paths seen through it. Links
below the directory count only if they are followed; then a link to a file is a
file, and one to a directory is walked unless that directory is already being
walked further up. Every directory is entered by its whole path, so what lies
behind too many links or too long a path is passed over.
-/

namespace CompileTree.Files.Tree

/-- The files in and below the directory that a path leads to. `above` holds the
    directories that are being walked, the innermost first, and `depth` says how many
    levels may still be entered. -/
def filesBelow (t : Tree) (working : Location) (followLinks : Bool) (depth : Nat)
    (directory : Path) (above : List Location) : List Path :=
  match depth, t.entry working true directory with
  | depth + 1, .ok (place, .directory) =>
    let above := place :: above
    (t.children place).flatMap fun (name, entry) =>
      let p := directory.join ⟨name⟩
      match entry with
      | .file .. => [p]
      | .device _ => []
      | .directory => t.filesBelow working followLinks depth p above
      | .link _ =>
        if followLinks then
          match t.entry working true p with
          | .ok (_, .file ..) => [p]
          | .ok (l, .directory) =>
            if l ∈ above then [] else t.filesBelow working followLinks depth p above
          | _ => []
        else []
  | _, _ => []

/-- What a walk that may still enter a level finds in a directory. -/
theorem filesBelow_of_directory {t : Tree} {working place : Location} {followLinks : Bool} {depth : Nat}
    {directory : Path} {above : List Location}
    (leads : t.entry working true directory = .ok (place, .directory)) :
    t.filesBelow working followLinks (depth + 1) directory above =
      (t.children place).flatMap fun (name, entry) =>
        let p := directory.join ⟨name⟩
        match entry with
        | .file .. => [p]
        | .device _ => []
        | .directory => t.filesBelow working followLinks depth p (place :: above)
        | .link _ =>
          if followLinks then
            match t.entry working true p with
            | .ok (_, .file ..) => [p]
            | .ok (l, .directory) =>
              if l ∈ place :: above then []
              else t.filesBelow working followLinks depth p (place :: above)
            | _ => []
          else [] := by
  rw [filesBelow]
  exact leads

/-- How deep a walk can get: along the directories of the tree, and once more for
    every link that leads to one of them. -/
def walkDepth (t : Tree) : Nat := (t.entries.length + 2) * (t.entries.length + 2)

/-- The files that a walk from a root yields, as many levels deep as given. A root
    that is a link to a directory is always walked, one that is a link to a file
    is yielded only if links are followed. -/
def filesWithin (t : Tree) (working : Location) (root : Path) (followLinks : Bool) (depth : Nat) :
    List Path :=
  match t.entry working false root, t.entry working true root with
  | .ok (_, .link _), .ok (_, .file ..) => if followLinks then [root] else []
  | .ok _, .ok (_, .file ..) => [root]
  | .ok _, .ok (_, .directory) => t.filesBelow working followLinks depth root []
  | _, _ => []

/-- The files that a walk from a root yields. -/
def files (t : Tree) (working : Location) (root : Path) (followLinks : Bool) : List Path :=
  t.filesWithin working root followLinks t.walkDepth

end CompileTree.Files.Tree
