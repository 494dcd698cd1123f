import CompileTree.Shell.Utility.Options

/-! # Streams

Files that are read piece by piece, so that what is known of them already can be
written before the rest is there, and no more is read than is needed.
-/

namespace CompileTree.Shell.Utility

open Files Text

/-- Open a file, or the input for a hyphen. -/
def openSource (p : Process) (file : String) : Act (Except Error Nat) := do
  if file = "-" then
    match p.descriptors.lookup 0 with
    | some index => return .ok index
    | none => return .error .badDescriptor
  else p.openFile file .read

/-- Go on with every piece of an open file, as long as that is wanted; `fuel` bounds the
    number of pieces. -/
def foldBlocks {σ : Type} (index size : Nat) (f : σ → String → Act (Bool × σ)) :
    Nat → σ → Act (Except Error σ)
  | 0, st => return .ok st
  | fuel + 1, st => do
    match ← System.readSome index size with
    | .error e => return .error e
    | .ok bytes =>
      if bytes.isEmpty then return .ok st
      let (goesOn, st) ← f st (ofBytes bytes)
      if goesOn then foldBlocks index size f fuel st else return .ok st

/-- Go on with every piece of an open file. -/
def eachBlock {σ : Type} (index : Nat) (f : σ → String → Act (Bool × σ)) (st : σ) :
    Act (Except Error σ) :=
  foldBlocks index System.blockSize f System.turnLimit st

/-- Go on with every one of some lines that have an end, as long as that is wanted; the lines
    that are left then are returned. -/
def foldEnded {σ : Type} (f : σ → List Char → Bool → Act (Bool × σ)) :
    List (List Char) → σ → Act (Option (List (List Char)) × σ)
  | [], st => return (none, st)
  | line :: rest, st => do
    let (goesOn, st) ← f st line true
    if goesOn then foldEnded f rest st else return (some rest, st)

/-- Go on with every line of an open file, as long as that is wanted; `before` is the start
    of a line whose end was not read yet. -/
def foldLines {σ : Type} (index size : Nat) (lineEnd : Char)
    (f : σ → List Char → Bool → Act (Bool × σ)) : Nat → List Char → σ → Act (Except Error σ)
  | 0, _, st => return .ok st
  | fuel + 1, before, st => do
    match ← System.readSome index size with
    | .error e => return .error e
    | .ok bytes =>
      if bytes.isEmpty then
        if before.isEmpty then return .ok st
        return .ok (← f st before false).2
      let parts := (before ++ (ofBytes bytes).toList).splitOn lineEnd
      let unended := parts.getLastD []
      match ← foldEnded f parts.dropLast st with
      | (none, st) => foldLines index size lineEnd f fuel unended st
      | (some rest, st) =>
        let left := rest.foldl (fun n line => n + line.length + 1) unended.length
        System.unread index left
        return .ok st

/-- How much utilities that read lines read at once. -/
def inputBlock : Nat := 32768

/-- Go on with every line of an open file, with whether it has an end, as long as that is
    wanted. What was read behind the last line is given back. -/
def eachLine {σ : Type} (index : Nat) (lineEnd : Char)
    (f : σ → List Char → Bool → Act (Bool × σ)) (st : σ) : Act (Except Error σ) :=
  foldLines index inputBlock lineEnd f System.turnLimit [] st

/-- What the letters behind a number multiply it by. -/
def multiplier? (suffix : List Char) : Option Nat :=
  let power (c : Char) : Option Nat :=
    match c with
    | 'k' | 'K' => some 1
    | 'M' | 'm' => some 2
    | 'G' => some 3
    | 'T' => some 4
    | 'P' => some 5
    | 'E' => some 6
    | 'Z' => some 7
    | 'Y' => some 8
    | _ => none
  match suffix with
  | [] => some 1
  | ['b'] => some 512
  | ['c'] => none
  | [c] | [c, 'i', 'B'] => (power c).map (Nat.pow 1024 ·)
  | [c, 'B'] => (power c).map (Nat.pow 1000 ·)
  | _ => none

/-- The number that digits with a multiplier behind them spell. -/
def scaled? (text : String) : Option Nat :=
  let cs := text.toList
  let digits := cs.takeWhile Char.isDigit
  let suffix := cs.drop digits.length
  match digits, suffix with
  | [], [] => none
  | [], suffix => multiplier? suffix
  | digits, suffix => (multiplier? suffix).map (Nat.ofDigitChars 10 digits 0 * ·)

/-- The end of lines: a zero byte or a line feed. -/
def lineEndFor (zero : Bool) : Char := if zero then '\x00' else '\n'

/-- Write a line with its end. -/
def sayLine (p : Process) (line : List Char) (lineEnd : Char) : Act Unit :=
  p.say (String.ofList (line ++ [lineEnd]))

/-- Whether what a process has written was not taken. -/
def isLost (p : Process) : Act Bool := do return (← p.loss?).isSome

end CompileTree.Shell.Utility
