import CompileTree.Shell.Builtin.Places
import CompileTree.Shell.Extended.Builtin.Arguments

/-! # Commands for the working directory

The working directory is entered on a path, and directories are put aside on a stack to
come back to them. The mask of new files is set here too.
-/

namespace CompileTree.Shell.Extended.Builtin

open Files Step Text
open Shell.Builtin (logical isAnchored grants)

/-- Whether every directory is there from which a path leads up. -/
def mayClimb (t : Tree) (directory path : String) : Bool :=
  let start := if path.startsWith "/" then [] else names directory
  let rec go (before : List String) : List String → Bool
    | [] => true
    | "." :: rest => go before rest
    | ".." :: rest =>
      t.isDirectory [] (Process.path ("/" ++ "/".intercalate before)) && go before.dropLast rest
    | name :: rest => go (before ++ [name]) rest
  go start (names path)

/-- Enter a directory, or tell why that is not possible. -/
def enter (physical : Bool) (path : String) : Step (Option Error) := do
  let s ← get
  let t := (← getThe System).files
  let target := if physical then path else logical s.directory path
  let found (path : String) := t.entry s.process.working true (Process.path path)
  let move (l : Location) (directory : String) : Step (Option Error) := do
    Values.setText "OLDPWD" s.directory
    Values.setText "PWD" directory
    modify fun s => { s with directory }
    changeProcess fun p => { p with working := l }
    return none
  let physicalOf (l : Location) : String := spread (Tree.pathOf l).text
  let logically := if physical || mayClimb t s.directory path then found target else .error .notFound
  match logically, found path with
  | .ok (l, .directory), _ => move l (if physical then physicalOf l else target)
  | _, .ok (l, .directory) => move l (physicalOf l)
  | _, .ok _ => return some .notADirectory
  | _, .error e => return some e

/-- Enter a directory that is called by a name, which is told if that fails. -/
def enterNamed (physical : Bool) (path name : String) : Step Nat := do
  match ← enter physical path with
  | none => return 0
  | some e => refuse (name ++ ": " ++ e.text)

/-- Whether links are followed where a directory is entered. -/
def isPhysical (os : List (Char × String)) : Step Bool := do
  let s ← get
  return match (os.filter fun o => o.1 == 'L' || o.1 == 'P').getLast? with
    | some (c, _) => c == 'P'
    | none => s.has "physical"

/-- The path on which a directory is found that may stand in one of a list, and whether the
    list was needed. -/
def pathInList (name : String) : Step (String × Bool) := do
  let s ← get
  let t := (← getThe System).files
  if isAnchored name || name = "" then return (name, false)
  let found := (((s.text? "CDPATH").getD "").toList.splitOn ':').findSome? fun cs =>
    let joined := if cs.isEmpty then name
      else String.ofList cs ++ (if cs.getLast? == some '/' then "" else "/") ++ name
    if t.isDirectory s.process.working (Process.path joined) then some (joined, !cs.isEmpty)
    else none
  return found.getD (name, false)

/-- Change the working directory. -/
def changeDirectory : Action := fun _ arguments =>
  withOptions ['L', 'P', 'e', '@'] [] arguments fun os rest => do
    let physical ← isPhysical os
    let s ← get
    match rest with
    | _ :: _ :: _ => refuse "too many arguments"
    | [] =>
      match s.text? "HOME" with
      | none => refuse "HOME not set"
      | some home => if home = "" then return 0 else enterNamed physical home home
    | ["-"] =>
      match s.text? "OLDPWD" with
      | none => refuse "OLDPWD not set"
      | some old =>
        let n ← enterNamed physical old old
        if n = 0 then say ((← get).directory ++ "\n")
        return n
    | [name] =>
      let (path, isTold) ← pathInList name
      let n ← enterNamed physical (if path = "" then "." else path) name
      if n = 0 && isTold then say ((← get).directory ++ "\n")
      return n

/-- Write the path of the working directory. -/
def workingDirectory : Action := fun _ arguments =>
  withOptions ['L', 'P'] [] arguments fun os _ => do
    let s ← get
    let physical ← isPhysical os
    say ((if physical then spread (Tree.pathOf s.process.working).text else s.directory) ++ "\n")
    return 0

/-- A path as it is shown, with the home directory as a tilde. -/
def politePath (s : State) (path : String) : String :=
  match s.text? "HOME" with
  | some home =>
    if home ≠ "" ∧ home ≠ "/" ∧ (path = home ∨ path.startsWith (home ++ "/")) then
      "~" ++ ((path.drop home.length).copy)
    else path
  | none => path

/-- Write the directories on the stack. -/
def showStack : Step Nat := do
  let s ← get
  say (" ".intercalate ((s.directory :: s.stack).map (politePath s)) ++ "\n")
  return 0

/-- A place on the stack as it is named from either end. -/
inductive StackPlace where
  | at (index : Int)
  | beyond
  | malformed
  deriving DecidableEq, Repr

/-- The place on the stack that an argument names. -/
def stackPlace? (size : Nat) (argument : String) : Option StackPlace :=
  match argument.toList with
  | sign :: cs =>
    if sign ≠ '+' ∧ sign ≠ '-' then none
    else if cs.isEmpty || !cs.all Char.isDigit then some .malformed
    else
      let n := Script.Reader.digitsValue cs
      if size ≤ n then some .beyond
      else some (.at (if sign = '+' then n else (size : Int) - 1 - n))
  | [] => none

/-- Tell that there is no such place on the stack. -/
def refusePlace (argument : String) : Step Nat :=
  refuse (argument ++ ": directory stack index out of range")

/-- Put the working directory aside and enter another one, or exchange directories. -/
def push : Action := fun _ arguments => do
  let keeps := arguments.head? == some "-n"
  let arguments := if keeps then arguments.drop 1 else arguments
  let arguments := match arguments with
    | "--" :: rest => rest
    | all => all
  let s ← get
  let all := s.directory :: s.stack
  let rotate (i : Nat) : Step Nat := do
    let turned := all.drop i ++ all.take i
    if keeps then
      modify fun s => { s with stack := turned.drop 1 }
      return 0
    match ← enterNamed false (turned.headD "/") (turned.headD "/") with
    | 0 =>
      modify fun s => { s with stack := turned.drop 1 }
      showStack
    | n => return n
  match arguments with
  | _ :: _ :: _ => refuse "too many arguments"
  | [] => if s.stack.isEmpty then refuse "no other directory" else
      match s.stack with
      | other :: rest => do
        match ← enterNamed false other other with
        | 0 =>
          modify fun after => { after with stack := s.directory :: rest }
          showStack
        | n => return n
      | [] => return 1
  | [name] =>
    let isDash := name = "-"
    match if isDash then none else stackPlace? all.length name with
    | some (.at i) => rotate i.toNat
    | some .beyond => refusePlace name
    | some .malformed =>
      complain (name ++ ": invalid number")
      usage
    | none =>
      if keeps then
        modify fun s => { s with stack := name :: s.stack }
        return ← showStack
      let path := if isDash then (s.text? "OLDPWD").getD "" else name
      match ← enterNamed false path path with
      | 0 =>
        modify fun after => { after with stack := s.directory :: s.stack }
        showStack
      | n => return n

/-- Come back to a directory that was put aside, or forget one. -/
def pop : Action := fun _ arguments => do
  let keeps := arguments.head? == some "-n"
  let arguments := if keeps then arguments.drop 1 else arguments
  let s ← get
  let all := s.directory :: s.stack
  let dropAt (i : Nat) : Step Nat := do
    modify fun s => { s with stack := s.stack.take (i - 1) ++ s.stack.drop i }
    showStack
  match arguments with
  | name :: _ =>
    match stackPlace? all.length name with
    | none =>
      complain (name ++ ": invalid argument")
      usage
    | some .malformed =>
      complain (name ++ ": invalid number")
      usage
    | some place =>
      if s.stack.isEmpty then return ← refuse "directory stack empty"
      match place with
      | .at i => if i = 0 then leaveTop s else dropAt i.toNat
      | _ => refusePlace name
  | [] =>
    if s.stack.isEmpty then refuse "directory stack empty"
    else if keeps then dropAt 1
    else leaveTop s
where
  leaveTop (s : State) : Step Nat := do
    match s.stack with
    | [] => return 1
    | other :: rest =>
      match ← enterNamed false other other with
      | 0 =>
        modify fun after => { after with stack := rest }
        showStack
      | n => return n

/-- List the directories on the stack. -/
def listStack : Action := fun _ arguments => do
  let s ← get
  let all := s.directory :: s.stack
  let isPlace (a : String) : Bool := (stackPlace? all.length a).any fun p => match p with
    | .malformed => false
    | _ => true
  let (places, others) := arguments.partition isPlace
  match others.find? fun a => !(a.startsWith "-" && (a.drop 1).all (· ∈ ['c', 'l', 'p', 'v'])) with
  | some a =>
    complain (a ++ ": invalid option")
    usage
  | none =>
    let letters := others.flatMap String.toList
    let shown (path : String) : String := if letters.contains 'l' then path else politePath s path
    if letters.contains 'c' then
      modify fun s => { s with stack := [] }
      return 0
    let numbered (e : String × Nat) : String :=
      (if letters.contains 'v' then
        "".pushn ' ' (2 - (toString e.2).length) ++ toString e.2 ++ "  " else "") ++ shown e.1 ++ "\n"
    match places.getLast? with
    | some a =>
      match stackPlace? all.length a with
      | some (.at i) =>
        let path := (all[i.toNat]?).getD ""
        say (numbered (path, i.toNat))
        return 0
      | _ => refusePlace ((a.drop 1).copy)
    | none =>
      if letters.contains 'v' || letters.contains 'p' then
        say (String.join (all.zipIdx.map numbered))
      else say (" ".intercalate (all.map shown) ++ "\n")
      return 0

/-- What is wrong with a text that changes a mask by letters. -/
def maskFault (text : String) : String :=
  let isWho (c : Char) : Bool := c ∈ ['u', 'g', 'o', 'a']
  let clause := (text.toList.splitOn ',').find? fun cs => (Mode.change? (String.ofList cs)).isNone
  match (clause.getD []).dropWhile isWho with
  | [] => "\x60\x00': invalid symbolic mode operator"
  | c :: cs =>
    if c ∈ ['+', '-', '='] then
      "\x60" ++ String.singleton ((cs.find? (· ∉ ['r', 'w', 'x', 'X', 's', 't', 'u', 'g', 'o'])).getD ' ') ++
        "': invalid symbolic mode character"
    else "\x60" ++ String.singleton c ++ "': invalid symbolic mode operator"

/-- Set or write the mask of new files. -/
def mask : Action := fun _ arguments =>
  withOptions ['S', 'p'] [] arguments fun os rest => do
    let old := (← get).process.mask
    let start := if has os 'p' then "umask " ++ (if has os 'S' then "-S " else "") else ""
    let setMask (mask : Nat) : Step Nat := do
      modify fun s => { s with process := { s.process with mask := mask % 512 } }
      if has os 'S' then say (grants (mask % 512) ++ "\n")
      return 0
    match rest with
    | [] =>
      say (start ++ (if has os 'S' then grants old else Mode.octalText 4 old) ++ "\n")
      return 0
    | a :: _ =>
      let cs := a.toList
      if cs.head?.any Char.isDigit then
        if cs.all Mode.isOctal && Nat.ofDigitChars 8 cs 0 < 0o10000 then
          setMask (Nat.ofDigitChars 8 cs 0)
        else refuse (a ++ ": octal number out of range")
      else
        match Mode.change? a with
        | some change => setMask (0o777 - change.apply old (0o777 - old) false % 512)
        | none => refuse (maskFault a)

end CompileTree.Shell.Extended.Builtin
