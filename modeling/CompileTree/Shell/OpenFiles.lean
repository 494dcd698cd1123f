import CompileTree.Shell.Act

/-! # Open files

How open files are read and written, and how what stands at places changes while it
is open. A pipe is read when it holds something or nobody can write to it any more,
and written when it has room; where nobody can read it any more, a signal tells so.
-/

namespace CompileTree.Shell.System

open Files Text

/-- Open one more file; its index is returned. -/
def add (f : OpenFile) : Act Nat :=
  modifyGet fun s => (s.openFiles.size, { s with openFiles := s.openFiles.push f })

/-- Make a pipe; the indices of its two ends are returned, that for reading first. -/
def addPipe : Act (Nat × Nat) :=
  modifyGet fun s =>
    let n := s.pipes.size
    let ends := #[⟨.pipe n, 0, true, false, false⟩, ⟨.pipe n, 0, false, true, false⟩]
    ((s.openFiles.size, s.openFiles.size + 1),
      { s with pipes := s.pipes.push (.ofBytes .empty), openFiles := s.openFiles ++ ends })

/-- Open bytes that can be read once. -/
def addDocument (bytes : ByteArray) : Act Nat :=
  modifyGet fun s =>
    let f : OpenFile := ⟨.pipe s.pipes.size, 0, true, false, false⟩
    (s.openFiles.size,
      { s with pipes := s.pipes.push (.ofBytes bytes), openFiles := s.openFiles.push f })

/-- Bytes with others in the place of those from a position on. -/
def overwrite (old : ByteArray) (position : Nat) (bytes : ByteArray) : ByteArray :=
  if position = old.size then old ++ bytes
  else
    let padding : ByteArray := ⟨Array.replicate (position - old.size) 0⟩
    old.extract 0 position ++ padding ++ bytes ++ old.extract (position + bytes.size) old.size

/-- Let every place of a file hold what stands at one of them. -/
def shareAt (s : System) (l : Location) : System :=
  if s.shared.isEmpty then s
  else match s.shared.find? (·.contains l), s.files.get? l with
    | some places, some e => { s with files := places.foldl (·.put · e) s.files }
    | _, _ => s

/-- Let every place of a file hold what stands at one of them. -/
def share (l : Location) : Act Unit := modify (·.shareAt l)

/-- Note that a place was changed now. -/
def noted (s : System) (l : Location) : System :=
  { s with files := s.files.setAttributes l fun a => { a with time := Tree.startTime + s.clock } }

/-- Note that a place was changed now. -/
def note (l : Location) : Act Unit := modify (·.noted l)

/-- Let a file stand at one more place. -/
def addPlace (l place : Location) : Act Unit :=
  modify fun s =>
    match s.files.get? l with
    | none => s
    | some e =>
      let files := (s.files.put place e).setAttributes place fun _ => s.files.attributesAt l
      if s.shared.any (·.contains l) then
        let widen (places : List Location) : List Location :=
          if places.contains l then place :: places else places
        { s with files, shared := s.shared.map widen }
      else { s with files, shared := [l, place] :: s.shared }

/-- Let what is open of a file below a place keep the bytes that the file has, and the
    other places of the file go without that one. -/
def detach (l : Location) : Act Unit :=
  modify fun s =>
    let keep (f : OpenFile) : OpenFile :=
      match f with
      | ⟨.file k, _, _, _, _⟩ =>
        match l.isPrefixOf k, s.files.get? k with
        | true, some (.file bytes _) => { f with endpoint := .buffer bytes }
        | _, _ => f
      | f => f
    { s with
      openFiles := s.openFiles.map keep
      shared := s.shared.map (·.filter (!l.isPrefixOf ·)) }

/-- Take away what stands at a place and below it. -/
def remove (l : Location) : Act Unit := do
  detach l
  modify fun s => { s with files := s.files.remove l }

/-- Move what stands at a place and below it to another place. What is open goes with it. -/
def move (l target : Location) : Act Unit := do
  detach target
  modify fun s =>
    let moved (k : Location) : Location :=
      match l.isPrefixOf? k with
      | some rest => target ++ rest
      | none => k
    let follow (f : OpenFile) : OpenFile :=
      match f with
      | ⟨.file k, _, _, _, _⟩ => { f with endpoint := .file (moved k) }
      | f => f
    let files := (s.files.remove target).remove l
    let files := (below s.files l target).foldl (fun t (k, e) => t.put k e) files
    let kept := s.files.attributes.map fun (k, a) => (moved k, a)
    { s with
      files := { files with attributes := kept }
      openFiles := s.openFiles.map follow
      shared := s.shared.map (·.map moved) }

/-- The number of a process that is started. -/
def newProcess : Act Nat :=
  modifyGet fun s => (s.nextProcess, { s with nextProcess := s.nextProcess + 1 })

/-- A result with the files that it comes with. -/
def change (f : Tree → Except Error Tree) : Act (Except Error Unit) := do
  match f (← get).files with
  | .ok files =>
    modify fun s => { s with files }
    return .ok ()
  | .error e => return .error e

/-- A series of changes, which may fail on the way. -/
def changes {α : Type} (c : Change α) : Act (Except Error α) := do
  let (result, files) := (c.run).run (← get).files
  modify fun s => { s with files }
  return result

/-- How long it takes to write. -/
def writingTime : Nat := 2000

/-- How often a process waits at most while it writes or reads. -/
def turnLimit : Nat := UInt32.size

/-- Write to a pipe, in pieces as long as there is room for. -/
def writePipe (process pipe : Nat) : Nat → ByteArray → Act (Except Error Unit)
  | 0, _ => return .error .brokenPipe
  | fuel + 1, bytes => do
    if bytes.isEmpty then return .ok ()
    let needed := if bytes.size ≤ Pipe.atomicSize then bytes.size else 1
    let hasRoom (s : System) : Bool := needed ≤ (s.pipes[pipe]?).elim 0 (·.room)
    Act.waitUntil fun s => hasRoom s || !s.hasReader pipe
    if !(← get).hasReader pipe then
      modify fun s => s.send Signal.brokenPipe (·.number == process)
      Act.pause
      return .error .brokenPipe
    let count := min bytes.size (((← get).pipes[pipe]?).elim 0 (·.room))
    modify fun s => { s with pipes := s.pipes.modify pipe (·.push (bytes.extract 0 count)) }
    writePipe process pipe fuel (bytes.extract count bytes.size)

/-- A system in which bytes were written to an open file that is no pipe. A file that was
    taken away in the meantime loses what is written. -/
def wrote (s : System) (index : Nat) (f : OpenFile) (bytes : ByteArray) :
    Except Error Unit × System :=
  let done (s : System) : Except Error Unit × System := (.ok (), s)
  match f.endpoint with
  | .device (.stream stream) => done { s with written := s.written.push (stream, bytes) }
  | .device d => if d.takes bytes then done s else (.error .noSpace, s)
  | .directory _ | .pipe _ => (.error .badDescriptor, s)
  | .buffer old =>
    let position := if f.appends then old.size else f.position
    let endpoint := Endpoint.buffer (overwrite old position bytes)
    let f := { f with endpoint, position := position + bytes.size }
    done { s with openFiles := s.openFiles.set! index f }
  | .file l =>
    match s.files.get? l with
    | some (.file old executable) =>
      let position := if f.appends then old.size else f.position
      done (({ s with
        files := s.files.put l (.file (overwrite old position bytes) executable)
        openFiles := s.openFiles.set! index { f with position := position + bytes.size } }.noted
          l).shareAt l)
    | _ => done s

/-- How many bytes a process may still write to an open file, if there is a limit. -/
def roomWithin? (s : System) (process : Nat) (f : OpenFile) : Option Nat := do
  let l ← match f.endpoint with
    | .file l => some l
    | _ => none
  let most ← (Limit.ofProcess s process 'f').soft
  let size := match s.files.get? l with
    | some (.file bytes _) => bytes.size
    | _ => 0
  return most - (if f.appends then size else f.position)

/-- Let a process write to an open file. A signal tells it that a file would grow beyond its
    limit. -/
def write (process index : Nat) (bytes : ByteArray) : Act (Except Error Unit) := do
  match (← get).openFiles[index]? with
  | none => return .error .badDescriptor
  | some f =>
    if !f.writable then return .error .badDescriptor
    match f.endpoint with
    | .pipe n => writePipe process n turnLimit bytes
    | _ =>
      let room := (roomWithin? (← get) process f).getD bytes.size
      let result ← modifyGet fun s => s.wrote index f (bytes.extract 0 room)
      Act.spend writingTime
      if room < bytes.size then
        modify fun s => s.send Signal.fileSize (·.number == process)
        Act.pause
        return .error .fileTooLarge
      return result

/-- Bytes without any order. -/
def noiseBytes (seed : Nat) : Nat → List UInt8
  | 0 => []
  | count + 1 =>
    let next := (seed * 6364136223846793005 + 1442695040888963407) % 18446744073709551616
    (next / 4294967296).toUInt8 :: noiseBytes next count

/-- What can be read at once from an open file that is no pipe: as many bytes as are asked
    for or as are left. -/
def available (s : System) (f : OpenFile) (limit : Nat) : Except Error ByteArray :=
  let part (bytes : ByteArray) : Except Error ByteArray :=
    .ok (bytes.extract f.position (min bytes.size (f.position + limit)))
  match f.endpoint with
  | .device .zeros => .ok ⟨Array.replicate limit 0⟩
  | .device .noise => .ok ⟨(noiseBytes (s.clock + f.position) limit).toArray⟩
  | .device _ | .pipe _ => .ok .empty
  | .directory _ => .error .isADirectory
  | .buffer bytes => part bytes
  | .file l =>
    match s.files.get? l with
    | some (.file bytes _) => part bytes
    | _ => .ok .empty

/-- Read at most as many bytes as are asked for. Nothing is read only at the end. -/
def readSome (index limit : Nat) : Act (Except Error ByteArray) := do
  match (← get).openFiles[index]? with
  | none => return .error .badDescriptor
  | some f =>
    if !f.readable then return .error .badDescriptor
    match f.endpoint with
    | .pipe n =>
      Act.waitUntil fun s => s.pipeSize n ≠ 0 || !s.hasWriter n
      modifyGet fun s =>
        match s.pipes[n]? with
        | some pipe =>
          let (part, left) := pipe.take limit
          (.ok part, { s with pipes := s.pipes.set! n left })
        | none => (.ok .empty, s)
    | _ =>
      modifyGet fun s =>
        match s.available f limit with
        | .ok part =>
          let f := { f with position := f.position + part.size }
          (.ok part, { s with openFiles := s.openFiles.set! index f })
        | .error e => (.error e, s)

/-- The most that is read at once. -/
def blockSize : Nat := 65536

/-- Read all that is left, behind what was read before. -/
def readRest (index : Nat) : Nat → ByteArray → Act (Except Error ByteArray)
  | 0, before => return .ok before
  | fuel + 1, before => do
    match ← readSome index blockSize with
    | .error e => return .error e
    | .ok part =>
      if part.isEmpty then return .ok before
      else readRest index fuel (before ++ part)

/-- Read at most as many bytes as asked for, or all that are left. -/
def read (index : Nat) (limit : Option Nat) : Act (Except Error ByteArray) :=
  match limit with
  | some n => readSome index n
  | none => readRest index turnLimit .empty

/-- What stands at the front of an open file, which is not read yet; for a pipe, what it
    holds when something can be read. -/
def peek (index limit : Nat) : Act (Except Error ByteArray) := do
  match (← get).openFiles[index]? with
  | none => return .error .badDescriptor
  | some f =>
    if !f.readable then return .error .badDescriptor
    match f.endpoint with
    | .pipe n =>
      Act.waitUntil fun s => s.pipeSize n ≠ 0 || !s.hasWriter n
      return .ok (((← get).pipes[n]?).elim .empty fun pipe => (pipe.take limit).1)
    | _ => return (← get).available f limit

/-- How far is looked ahead for the end of a line. -/
def lineBlockSize : Nat := 1024

/-- The number of bytes up to the end of the first line, if the line has one. -/
def lineSize? (bytes : ByteArray) (lineEnd : UInt8) : Option Nat :=
  (bytes.findIdx? (· == lineEnd)).map (· + 1)

/-- Read on to the end of a line, and nothing behind it. -/
def readLineRest (index : Nat) (lineEnd : UInt8) : Nat → ByteArray → Act (Except Error ByteArray)
  | 0, before => return .ok before
  | fuel + 1, before => do
    match ← peek index lineBlockSize with
    | .error e => return .error e
    | .ok ahead =>
      if ahead.isEmpty then return .ok before
      match lineSize? ahead lineEnd with
      | some n =>
        match ← readSome index n with
        | .error e => return .error e
        | .ok part => return .ok (before ++ part)
      | none =>
        match ← readSome index ahead.size with
        | .error e => return .error e
        | .ok part => readLineRest index lineEnd fuel (before ++ part)

/-- Read a line with its end, if it has one. -/
def readLine (index : Nat) (lineEnd : UInt8) : Act (Except Error ByteArray) :=
  readLineRest index lineEnd turnLimit .empty

/-- Give bytes that were read back, as far as the open file can be read again. -/
def unread (index count : Nat) : Act Unit :=
  modify fun s =>
    match s.openFiles[index]? with
    | some f =>
      match f.endpoint with
      | .file _ | .buffer _ =>
        { s with openFiles := s.openFiles.set! index { f with position := f.position - count } }
      | _ => s
    | none => s

end CompileTree.Shell.System
