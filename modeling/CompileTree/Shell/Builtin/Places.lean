import CompileTree.Files.Mode
import CompileTree.Shell.Builtin.Arguments

/-! # Commands for the working directory

The working directory is known by the path on which it was entered, in which names
that lead up are taken away together with the names before them.
-/

namespace CompileTree.Shell.Builtin

open Files Run Text

/-- The path that another path leads to from a directory, without names that lead up. -/
def logical (directory path : String) : String :=
  let start := if path.startsWith "/" then [] else names directory
  let all := (names path).foldl
    (fun ns name => if name = "." then ns else if name = ".." then ns.dropLast else ns ++ [name])
    start
  "/" ++ "/".intercalate all

/-- Enter a directory. -/
def enter (physical : Bool) (path : String) : Run Bool := do
  let s ← get
  let t := (← getThe System).files
  let target := if physical then path else logical s.directory path
  match t.entry s.process.working true (Process.path target) with
  | .ok (l, .directory) =>
    let directory := if physical then spread (Tree.pathOf l).text else target
    assign "OLDPWD" s.directory true
    assign "PWD" directory true
    modify fun s => { s with directory }
    changeProcess fun p => { p with working := l }
    return true
  | _ => return false

/-- Whether a path tells by itself from where it starts. -/
def isAnchored (path : String) : Bool :=
  path.startsWith "/" ||
    (match path.toList with
    | '.' :: rest =>
      let next := if rest.head? == some '.' then (rest.drop 1).head? else rest.head?
      next.all (· == '/')
    | _ => false)

/-- Change the working directory. -/
def changeDirectory : Action := fun _ arguments => do
  let (os, rest) ← options ['L', 'P'] [] arguments
  let physical := (os.getLast?.map (·.1)) == some 'P'
  let s ← get
  let (target, tells) := match rest with
    | [] => ((s.value? "HOME").getD "", false)
    | "-" :: _ => ((s.value? "OLDPWD").getD "", true)
    | path :: _ => (path, false)
  let path := if target = "" then "." else target
  let t := (← getThe System).files
  let found := if isAnchored path then none
    else (((s.value? "CDPATH").getD "").toList.splitOn ':').findSome? fun cs =>
      let joined := if cs.isEmpty then path
        else String.ofList cs ++ (if cs.getLast? == some '/' then "" else "/") ++ path
      if t.isDirectory s.process.working (Process.path joined) then some (joined, !cs.isEmpty)
      else none
  let (path, fromList) := found.getD (path, false)
  if ← enter physical path then
    if tells || fromList then say ((← get).directory ++ "\n")
    return 0
  else fault ("can't cd to " ++ target) 2

/-- Write the path of the working directory. -/
def workingDirectory : Action := fun _ arguments => do
  let (os, _) ← options ['L', 'P'] [] arguments
  let s ← get
  let physical := (os.getLast?.map (·.1)) == some 'P'
  say ((if physical then spread (Tree.pathOf s.process.working).text else s.directory) ++ "\n")
  return 0

/-- What is granted by a mask, in letters. -/
def grants (mask : Nat) : String :=
  let letters (n : Nat) : String :=
    (if n / 4 % 2 = 0 then "r" else "") ++ (if n / 2 % 2 = 0 then "w" else "") ++
      (if n % 2 = 0 then "x" else "")
  "u=" ++ letters (mask / 64) ++ ",g=" ++ letters (mask / 8) ++ ",o=" ++ letters mask

/-- Set or write the mask of new files. -/
def mask : Action := fun _ arguments => do
  let (os, rest) ← options ['S'] [] arguments
  let old := (← get).process.mask
  let setMask (mask : Nat) : Run Nat := do
    modify fun s => { s with process := { s.process with mask := mask % 512 } }
    return 0
  match rest with
  | [] =>
    say ((if os.isEmpty then Mode.octalText 4 old else grants old) ++ "\n")
    return 0
  | a :: _ =>
    let cs := a.toList
    if cs.head?.any Char.isDigit then
      if cs.all Mode.isOctal then setMask (Nat.ofDigitChars 8 cs 0)
      else fault ("Illegal number: " ++ a) 2
    else
      match Mode.change? a with
      | some change => setMask (0o777 - change.apply old (0o777 - old) false % 512)
      | none => fault ("Illegal mode: " ++ a) 2

end CompileTree.Shell.Builtin
