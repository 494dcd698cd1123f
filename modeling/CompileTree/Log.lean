import CompileTree.Files.Change
import CompileTree.Log.SipHash
import CompileTree.Path
import CompileTree.Text.Hex
import CompileTree.Machine

/-! # Logs

A log is a fresh file below the log directory. One attempt after the other tries
to make the file at its own place, and the first that finds its place empty has
the log; nothing that is already there is ever touched.
-/

/-! ## Where a log is kept

Every attempt at a log has a place of its own, spread over two levels of
directories by the hash of the time, the process and the number of the attempt.
-/

namespace CompileTree.Log

/-- The hash of an attempt: time in nanoseconds, process number and number of
    the attempt, in 16, 4 and 8 bytes. -/
def attemptHash (time pid attempt : Nat) : UInt64 :=
  SipHash.hash 0 0
    (SipHash.bytesOf 16 time ++ SipHash.bytesOf 4 pid ++ SipHash.bytesOf 8 attempt)

/-- The place of the log with a given hash below a directory: six bits of the
    hash choose each of two directories, the other bits name the file. -/
def place (directory : Path) (hash : UInt64) : Path :=
  let n := hash.toNat
  (((directory.join ⟨"standalone"⟩).join ⟨String.ofList (Text.paddedHex 2 (n % 64))⟩).join
    ⟨String.ofList (Text.paddedHex 2 (n / 64 % 64))⟩).join
    ⟨String.ofList (Text.paddedHex 5 (n / 4096)) ++ ".log"⟩

/-- The place of the log of an attempt. -/
def location (directory : Path) (time pid attempt : Nat) : Path :=
  place directory (attemptHash time pid attempt)

example : (location ⟨"l"⟩ 1 2 1).text = "l/standalone/14/1a/214b6700d4333.log" := by
  decide +kernel

/-! ## Finding a free place -/

open Files

/-- How many attempts there are: their number has 64 bits. -/
def attempts : Nat := UInt64.size - 1

/-- Make the file of one attempt with the directories that lead to it; none if
    something stands at its place. -/
def attempt (directory : Path) (time process number : Nat) (working : Location) :
    Change (Option Location) := do
  let p := location directory time process number
  makeDirectories working p.directory
  match (← get).create working p with
  | .ok (l, t) =>
    set t
    return some l
  | .error .alreadyExists => return none
  | .error e => throw e

/-- Make the file of the first attempt whose place is empty, `left` of them at
    most; its place and the number of the attempt are returned. -/
def attemptFrom (directory : Path) (time process number : Nat) (working : Location) :
    Nat → Change (Location × Nat)
  | 0 => throw .alreadyExists
  | left + 1 => do
    match ← attempt directory time process number working with
    | some l => return (l, number)
    | none => attemptFrom directory time process (number + 1) working left

/-- Make a fresh log below a directory; its place and its path are returned. -/
def create (directory : Path) : Task Error (Location × Path) := do
  let time ← Task.time
  let process := (← getThe Machine).process
  let (l, number) ← Task.change (attemptFrom directory time process 1 · attempts)
  return (l, location directory time process number)

end CompileTree.Log
