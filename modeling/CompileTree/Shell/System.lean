import CompileTree.Batch
import CompileTree.Files.Change
import CompileTree.Shell.Signal
import CompileTree.Text.Utf8

/-! # Systems

What processes share: the files, the open files, the pipes, the time, and what is
known of every process. What they write to the two outputs comes out in order.
-/

namespace CompileTree.Shell

open Files Text

/-- Where an open file leads. -/
inductive Endpoint where
  | device (d : Device)
  | file (l : Location)
  | directory (l : Location)
  /-- A file that was taken away while it was open. -/
  | buffer (bytes : ByteArray)
  /-- A pipe by its number. -/
  | pipe (n : Nat)

/-- A file that was opened, with the position at which it is read and written. -/
structure OpenFile where
  endpoint : Endpoint
  position : Nat
  readable : Bool
  writable : Bool
  /-- Whether all is written at the end. -/
  appends : Bool

/-- Whether an open file leads to a pipe. -/
def OpenFile.leadsTo (f : OpenFile) (pipe : Nat) : Bool :=
  match f.endpoint with
  | .pipe n => n == pipe
  | _ => false

/-- What was written to a pipe and not read yet. -/
structure Pipe where
  bytes : ByteArray
  /-- How many of the bytes were read. -/
  start : Nat
  /-- How often the pipe was opened by its name for reading, and for writing. -/
  readers : Nat
  writers : Nat

/-- What a system knows of a process. -/
structure Standing where
  number : Nat
  parent : Nat
  /-- The processes that are sent signals together. -/
  group : Nat
  /-- How the process ended, if nobody was told of it yet. -/
  ended : Option ExitStatus
  /-- The signals for which the process has provided. -/
  caught : List Nat
  ignored : List Nat
  /-- The signals that were sent to the process and that it has not taken. -/
  pending : List Nat
  stopped : Bool
  /-- The program that it runs, and what that was called with. -/
  name : String
  arguments : List String
  working : Location
  /-- The open files by descriptor. -/
  descriptors : List (Nat × Nat)
  /-- Open files that the process uses without a descriptor. -/
  kept : List Nat
  /-- How far the process stands back behind others. -/
  rank : Int := 0
  /-- The limits that were set for the process, by letter: the one in force, and the highest
      that may be. -/
  limits : List (Char × Option Nat × Option Nat) := []

/-- A lock on a file that an open file has. -/
structure Lock where
  file : Location
  /-- The index of the open file. -/
  holder : Nat
  /-- Whether others may have such a lock, too. -/
  shared : Bool

/-- What processes share. -/
structure System where
  files : Tree
  /-- The places that stand for one and the same file. -/
  shared : List (List Location)
  openFiles : Array OpenFile
  pipes : Array Pipe
  written : Array (OutputStream × ByteArray)
  processes : List Standing
  /-- The number of the process that is started next. -/
  nextProcess : Nat
  /-- What processes have to write to their outputs and have not written yet. -/
  buffers : List (Nat × ByteArray)
  /-- The processes whose output was not taken, with what was wrong first. -/
  losses : List (Nat × Error)
  /-- The time in nanoseconds. -/
  clock : Nat
  /-- When the process that runs has to let others run. -/
  turnEnd : Nat
  locks : List Lock := []

namespace Pipe

/-- A pipe that holds bytes. -/
def ofBytes (bytes : ByteArray) : Pipe := ⟨bytes, 0, 0, 0⟩

/-- How many bytes a pipe can hold. -/
def capacity : Nat := 65536

/-- How many bytes are written in one piece. -/
def atomicSize : Nat := 4096

/-- How many bytes can be read. -/
def size (p : Pipe) : Nat := p.bytes.size - p.start

/-- How many bytes can be written. -/
def room (p : Pipe) : Nat := capacity - p.size

/-- Add bytes at the end. -/
def push (p : Pipe) (bytes : ByteArray) : Pipe := { p with bytes := p.bytes ++ bytes }

/-- The first bytes, and what is left without them. -/
def take (p : Pipe) (count : Nat) : ByteArray × Pipe :=
  let stop := min p.bytes.size (p.start + count)
  let part := p.bytes.extract p.start stop
  if stop = p.bytes.size then (part, { p with bytes := .empty, start := 0 })
  else if capacity < stop then
    (part, { p with bytes := p.bytes.extract stop p.bytes.size, start := 0 })
  else (part, { p with start := stop })

end Pipe

namespace Standing

/-- The signal that ends a process, if one was sent that does. -/
def fatal? (p : Standing) : Option Nat :=
  if p.pending.contains Signal.kill then some Signal.kill
  else p.pending.find? fun n => !p.caught.contains n

/-- The open files that a process can use. -/
def held (p : Standing) : List Nat := p.kept ++ p.descriptors.map (·.2)

/-- Whether a process is there and has not ended. -/
def isAlive (p : Standing) : Bool := p.ended.isNone

/-- What becomes of a process that is sent a signal. -/
def receive (p : Standing) (signal : Nat) : Standing :=
  let effect := match Signal.ofNumber? signal with
    | some known => known.effect
    | none => .ends
  let p := if signal = Signal.goOn then { p with stopped := false } else p
  if signal = 0 || p.pending.contains signal then p
  else if signal = Signal.stop then { p with stopped := true }
  else if p.ignored.contains signal && signal ≠ Signal.kill then p
  else if p.caught.contains signal then { p with pending := p.pending ++ [signal] }
  else match effect with
    | .ends => { p with pending := p.pending ++ [signal] }
    | .stops => { p with stopped := true }
    | .nothing => p

end Standing

namespace System

/-- What is known of a process. -/
def standing? (s : System) (number : Nat) : Option Standing :=
  s.processes.find? (·.number == number)

/-- Change what is known of a process. -/
def update (s : System) (number : Nat) (f : Standing → Standing) : System :=
  { s with processes := s.processes.map fun p => if p.number = number then f p else p }

/-- Send a signal to the processes for which something holds. -/
def send (s : System) (signal : Nat) (reaches : Standing → Bool) : System :=
  { s with processes := s.processes.map fun p =>
      if p.isAlive && reaches p then p.receive signal else p }

/-- The pipe that an open file leads to. -/
def pipeOf? (s : System) (index : Nat) : Option Nat :=
  match s.openFiles[index]? with
  | some ⟨.pipe n, _, _, _, _⟩ => some n
  | _ => none

/-- Whether some process can use an open file for which something holds. -/
def holds (s : System) (which : OpenFile → Bool) : Bool :=
  s.processes.any fun p => p.held.any fun index => (s.openFiles[index]?).any which

/-- Whether some process can use an open file. -/
def isHeld (s : System) (index : Nat) : Bool := s.processes.any fun p => p.held.contains index

/-- Whether an open file can have a lock on a file besides the locks of others. -/
def allows (s : System) (l : Lock) : Bool :=
  s.locks.all fun k =>
    k.file != l.file || k.holder == l.holder || (k.shared && l.shared) || !s.isHeld k.holder

/-- Whether some process can write to a pipe. -/
def hasWriter (s : System) (pipe : Nat) : Bool := s.holds fun f => f.writable && f.leadsTo pipe

/-- Whether some process can read from a pipe. -/
def hasReader (s : System) (pipe : Nat) : Bool := s.holds fun f => f.readable && f.leadsTo pipe

/-- The bytes that a pipe holds. -/
def pipeSize (s : System) (pipe : Nat) : Nat := (s.pipes[pipe]?).elim 0 (·.size)

/-- What is left when a process has ended. Its own processes have no parent any more, and
    it stays known until its parent is told how it has ended. -/
def finish (s : System) (number : Nat) (how : ExitStatus) : System :=
  let parent := (s.standing? number).elim 0 (·.parent)
  let waits := s.processes.any fun p => p.number == parent && p.isAlive
  let processes := s.processes.filterMap fun p =>
    if p.number = number then
      if waits then
        some { p with
          ended := some how, descriptors := [], kept := [], pending := [], stopped := false }
      else none
    else if p.parent = number then
      if p.isAlive then some { p with parent := 0 } else none
    else some p
  let buffers := if s.buffers.isEmpty then [] else s.buffers.filter (·.1 != number)
  { s with processes, buffers }.send Signal.child fun p => p.number == parent

/-- A process that was started by another one and has ended. -/
def endedChild? (s : System) (parent : Nat) (which : Nat → Bool) : Option (Nat × ExitStatus) :=
  s.processes.findSome? fun p =>
    if p.parent = parent && which p.number then p.ended.map (p.number, ·) else none

/-- Whether a process has started others that are known. -/
def hasChild (s : System) (parent : Nat) (which : Nat → Bool) : Bool :=
  s.processes.any fun p => p.parent == parent && which p.number

/-- Forget a process that has ended. -/
def forget (s : System) (number : Nat) : System :=
  { s with processes := s.processes.filter (·.number != number) }

/-- Everything at and below a place, with what the place is replaced by. -/
def below (t : Tree) (l target : Location) : List (Location × Entry) :=
  t.entries.filterMap fun (k, e) => (l.isPrefixOf? k).map fun rest => (target ++ rest, e)

end System

end CompileTree.Shell
