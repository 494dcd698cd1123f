import CompileTree.Files.Lookup

/-! # Changing files

Single changes either happen or fail and leave the tree as it was. Making a
directory with all that lead to it is a series of single changes, and those made
before a failure stay.
-/

namespace CompileTree.Files

namespace Tree

/-- A path without separators at its end. -/
def bare (p : Path) : Path :=
  ⟨String.ofList ((p.chars.reverse.dropWhile (· == '/')).reverse)⟩

/-- Whether a path ends with a separator. -/
def endsOpen (p : Path) : Bool := p.chars.getLast? == some '/'

/-- Where a path without separators at its end leads to; a link there is not followed. -/
def placeFor (t : Tree) (working : Location) (p : Path) : Except Error Location :=
  if endsOpen p then
    if bare p = ⟨""⟩ then .ok [] else t.locate working false (bare p)
  else t.locate working false p

/-- Whether nothing can be made at a place: what stands below the directory of processes is
    there by itself. -/
def isSealed (l : Location) : Bool := l.head? == some "proc"

/-- Give a file new bytes, or make it. A device keeps nothing of what it takes. -/
def write (t : Tree) (working : Location) (p : Path) (bytes : ByteArray) : Except Error Tree := do
  if endsOpen p then
    let _ ← t.placeFor working p
    throw .isADirectory
  let l ← t.locate working true p
  match t.get? l with
  | some (.file _ executable) => return t.put l (.file bytes executable)
  | some (.device d) => if d.takes bytes then return t else throw .noSpace
  | some _ => throw .isADirectory
  | none => if isSealed l then throw .notFound else return t.put l (.file bytes false)

/-- Make an empty file where nothing stands; the place of the file is returned. -/
def create (t : Tree) (working : Location) (p : Path) : Except Error (Location × Tree) := do
  let l ← t.locate working false p
  match t.get? l with
  | some _ => throw .alreadyExists
  | none =>
    if isSealed l then throw .notFound else return (l, t.put l (.file ByteArray.empty false))

/-- Make a directory where nothing stands. -/
def makeDirectory (t : Tree) (working : Location) (p : Path) : Except Error Tree := do
  let l ← t.placeFor working p
  match t.get? l with
  | some _ => throw .alreadyExists
  | none => if isSealed l then throw .notFound else return t.put l .directory

/-- Make a symbolic link where nothing stands. -/
def makeLink (t : Tree) (working : Location) (p : Path) (target : String) : Except Error Tree := do
  if target = "" then throw .notFound
  if pathLimit < target.utf8ByteSize then throw .nameTooLong
  let l ← t.placeFor working p
  match t.get? l with
  | some _ => throw .alreadyExists
  | none => if isSealed l then throw .notFound else return t.put l (.link target)

end Tree

/-- A series of changes that may fail on the way. -/
abbrev Change := ExceptT Error (StateM Tree)

/-- A single change. -/
def change (f : Tree → Except Error Tree) : Change Unit := do
  match f (← get) with
  | .ok t => set t
  | .error e => throw e

/-- A failure to make a directory does not count if it is there. -/
def settle (working : Location) (p : Path) (e : Error) : Change Unit := do
  if (← get).isDirectory working p then return else throw e

/-- Make a directory and those that lead to it; `fuel` bounds their number. -/
def makeDirectoriesWithin (working : Location) : Nat → Path → Change Unit
  | 0, _ => return
  | fuel + 1, p => do
    if p.text = "" then return
    match (← get).makeDirectory working p with
    | .ok t => set t
    | .error .notFound =>
      match p.parent? with
      | none => throw .notFound
      | some parent =>
        makeDirectoriesWithin working fuel parent
        match (← get).makeDirectory working p with
        | .ok t => set t
        | .error e => settle working p e
    | .error e => settle working p e

/-- Make a directory and those that lead to it, as far as they are missing. -/
def makeDirectories (working : Location) (p : Path) : Change Unit :=
  makeDirectoriesWithin working (p.components.length + 1) p

end CompileTree.Files
