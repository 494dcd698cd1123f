import CompileTree.Files.Error
import CompileTree.Files.Tree
import CompileTree.Path

/-! # Finding files

A path is followed name by name from the working directory or the root. A link
on the way is replaced by its target, at most forty times; a link at the end is
replaced only if the caller asks for what it leads to. The last name need not be
there, everything before it has to be a directory. Neither a path nor a name in
it may be too long.
-/

namespace CompileTree.Files

/-- How many links are followed for one path. -/
def linkLimit : Nat := 40

/-- The longest name in bytes. -/
def nameLimit : Nat := 255

/-- The longest path in bytes. -/
def pathLimit : Nat := 4095

/-- The names of a path text. -/
def names (text : String) : List String :=
  ((text.toList.splitOn '/').filter (· ≠ [])).map String.ofList

/-- The names of a path text; a separator at the end asks for a directory, as a
    last name `.` does. -/
def steps (text : String) : List String :=
  if text.toList.getLast? == some '/' then names text ++ ["."] else names text

/-- Whether a path text starts at the root. -/
def isRooted (text : String) : Bool := text.toList.head? == some '/'

namespace Tree

/-- Follow names from a directory. -/
def follow (t : Tree) (followLast : Bool) (links : Nat) (directory : Location) :
    List String → Except Error Location
  | [] => .ok directory
  | name :: rest =>
    if name = "." then t.follow followLast links directory rest
    else if name = ".." then t.follow followLast links directory.dropLast rest
    else if nameLimit < name.utf8ByteSize then .error .nameTooLong
    else
      match t.get? (directory ++ [name]) with
      | some .directory => t.follow followLast links (directory ++ [name]) rest
      | some (.file ..) | some (.device _) =>
        if rest = [] then .ok (directory ++ [name]) else .error .notADirectory
      | none => if rest = [] then .ok (directory ++ [name]) else .error .notFound
      | some (.link target) =>
        if rest = [] ∧ !followLast then .ok (directory ++ [name])
        else
          match links with
          | 0 => .error .tooManyLinks
          | links + 1 =>
            if target = "" then .error .notFound
            else
              t.follow followLast links (if isRooted target then [] else directory)
                (steps target ++ rest)
termination_by todo => (links, todo.length)

/-- The place a path of any length leads to from a working directory. -/
def resolve (t : Tree) (working : Location) (followLast : Bool) (p : Path) :
    Except Error Location :=
  if p.text = "" then .error .notFound
  else t.follow followLast linkLimit (if isRooted p.text then [] else working) (steps p.text)

/-- The place a path leads to from a working directory, whether anything stands
    there or not. -/
def locate (t : Tree) (working : Location) (followLast : Bool) (p : Path) :
    Except Error Location :=
  if '\x00' ∈ p.chars then .error .nulInPath
  else if pathLimit < p.text.utf8ByteSize then .error .nameTooLong
  else t.resolve working followLast p

/-- The place a path leads to and what stands there. -/
def entry (t : Tree) (working : Location) (followLast : Bool) (p : Path) :
    Except Error (Location × Entry) := do
  let l ← t.locate working followLast p
  match t.get? l with
  | some e => return (l, e)
  | none => throw .notFound

/-- Whether a path leads to a file. -/
def isFile (t : Tree) (working : Location) (p : Path) : Bool :=
  match t.entry working true p with
  | .ok (_, .file ..) => true
  | _ => false

/-- Whether a path leads to a directory. -/
def isDirectory (t : Tree) (working : Location) (p : Path) : Bool :=
  match t.entry working true p with
  | .ok (_, .directory) => true
  | _ => false

/-- Whether a path leads to anything. -/
def isPresent (t : Tree) (working : Location) (p : Path) : Bool :=
  (t.entry working true p).toOption.isSome

/-- The absolute path of a place. -/
def pathOf (l : Location) : Path := ⟨"/" ++ "/".intercalate l⟩

/-- The absolute path without links that leads to the same place. A path is followed
    whatever its length, but the one that it stands for has its limit. -/
def canonical (t : Tree) (working : Location) (p : Path) : Except Error Path := do
  if '\x00' ∈ p.chars then throw .nulInPath
  let l ← t.resolve working true p
  if pathLimit < (pathOf l).text.utf8ByteSize then throw .nameTooLong
  if (t.get? l).isNone then throw .notFound
  return pathOf l

/-- The bytes of a file; a device has none. -/
def read (t : Tree) (working : Location) (p : Path) : Except Error ByteArray := do
  match (← t.entry working true p).2 with
  | .file bytes _ => return bytes
  | .device _ => return .empty
  | _ => throw .isADirectory

/-- The text of a file. -/
def readText (t : Tree) (working : Location) (p : Path) : Except Error String := do
  match String.fromUTF8? (← t.read working p) with
  | some text => return text
  | none => throw .notText

end Tree

end CompileTree.Files
