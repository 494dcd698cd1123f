import CompileTree.Shell.OpenFiles

/-! # Processes

Every process has a working directory, variables and descriptors, which are numbers
for open files; a process that is started gets copies of them all. It is started with
something to do, and the one that started it can wait for its end.
-/

namespace CompileTree.Shell

open Files Text

/-- What a process has for itself. All its texts are byte texts. -/
structure Process where
  number : Nat
  /-- The process that started this one. -/
  parent : Nat
  working : Location
  environment : List (String × String)
  /-- The open files by descriptor. -/
  descriptors : List (Nat × Nat)
  /-- Open files that the process uses without a descriptor. -/
  kept : List Nat
  /-- The bits that new files do not get. -/
  mask : Nat

/-- How a file is opened. -/
inductive OpenMode where
  | read
  /-- Its bytes are dropped; it is made if it is not there. -/
  | write
  /-- As for writing, but no file may be there. -/
  | fresh
  | append
  | update
  deriving DecidableEq, Repr

namespace Process

/-- The path that byte text spells. -/
def path (text : String) : Path := ⟨gather text⟩

/-- The descriptor that a name of a special file stands for. -/
def descriptorOf? (name : String) : Option Nat :=
  if name = "/dev/stdin" then some 0
  else if name = "/dev/stdout" then some 1
  else if name = "/dev/stderr" then some 2
  else if name.startsWith "/dev/fd/" then ((name.drop 8).copy).toNat?
  else if name.startsWith "/proc/self/fd/" then ((name.drop 14).copy).toNat?
  else none

/-- The pipe to which a name for a descriptor leads. -/
def pipeNamed? (p : Process) (s : System) (name : String) : Option Nat := do
  let index ← p.descriptors.lookup (← descriptorOf? name)
  match (← s.openFiles[index]?).endpoint with
  | .pipe n => some n
  | _ => none

/-- Where a path leads, if something stands there. A pipe that is named by its descriptor
    stands at a place of its own. -/
def placeIn (p : Process) (s : System) (followLast : Bool) (name : String) :
    Except Error (Location × Entry) :=
  match if followLast then p.pipeNamed? s name else none with
  | some n => .ok (["pipe:[" ++ toString n ++ "]"], .device (.queue n))
  | none => s.files.entry p.working followLast (path name)

/-- The bits that new files do not get as a rule. -/
def usualMask : Nat := 0o022

/-- Let a place that was made have no bits that the process takes from new files. -/
def masked (p : Process) (mode : Nat) (t : Tree) (l : Location) : Tree :=
  if p.mask = usualMask then t
  else t.setAttributes l fun a => { a with mode := some (mode &&& (0o777 - p.mask)) }

/-- What is opened where an entry stands. -/
def endpointOf (l : Location) : Entry → Endpoint
  | .directory => .directory l
  | .device (.queue n) => .pipe n
  | .device d => .device d
  | _ => .file l

/-- Open a file that is there for reading. -/
def openForReading (p : Process) (t : Tree) (name : String) : Except Error OpenFile := do
  match ← t.entry p.working true (path name) with
  | (_, .device .absent) => throw .noDevice
  | (l, e) => return ⟨endpointOf l e, 0, true, false, false⟩

/-- Open a file for writing, with the tree in which it is there. -/
def openForWriting (p : Process) (t : Tree) (name : String) (mode : OpenMode) :
    Except Error (OpenFile × Tree) := do
  let opened (e : Endpoint) : OpenFile := ⟨e, 0, mode == .update, true, mode == .append⟩
  match (t.entry p.working true (path name)).toOption with
  | some (_, .device .absent) => throw .noDevice
  | some (l, .device d) => return (opened (endpointOf l (.device d)), t)
  | some (l, .file ..) =>
    if mode = .fresh then throw .alreadyExists
    if mode = .write then return (opened (.file l), ← t.write p.working (path name) .empty)
    else return (opened (.file l), t)
  | some _ => throw .isADirectory
  | none =>
    let made ← t.write p.working (path name) .empty
    let l ← made.locate p.working true (path name)
    return (opened (.file l), p.masked 0o666 made l)

/-- Count one more reader or writer of a pipe with a name, and wait for the other side. -/
def meet (p : Process) (index pipe : Nat) (reads writes : Bool) : Act Unit := do
  modify fun s =>
    let count (q : Pipe) : Pipe := { q with
      readers := q.readers + (if reads then 1 else 0)
      writers := q.writers + (if writes then 1 else 0) }
    { s with pipes := s.pipes.modify pipe count }.update p.number fun st =>
      { st with kept := index :: st.kept }
  let readers := ((← get).pipes[pipe]?).elim 0 (·.readers)
  let writers := ((← get).pipes[pipe]?).elim 0 (·.writers)
  if !writes then
    Act.waitUntil fun s => s.hasWriter pipe || (s.pipes[pipe]?).any (writers < ·.writers)
  if !reads then
    Act.waitUntil fun s => s.hasReader pipe || (s.pipes[pipe]?).any (readers < ·.readers)

/-- Add an open file. A pipe with a name is open when the other side is. -/
def opened (p : Process) (f : OpenFile) : Act Nat := do
  let index ← System.add f
  match f.endpoint with
  | .pipe n => p.meet index n f.readable f.writable
  | _ => pure ()
  return index

/-- Open the file that a path leads to; the index of the open file is returned. -/
def openPath (p : Process) (name : String) (mode : OpenMode) : Act (Except Error Nat) := do
  let s ← get
  match mode with
  | .read =>
    match p.openForReading s.files name with
    | .ok f => return .ok (← p.opened f)
    | .error e => return .error e
  | mode =>
    match p.openForWriting s.files name mode with
    | .ok (f, files) =>
      set { s with files }
      match f.endpoint with
      | .file l =>
        if mode = .write || mode = .fresh || (s.files.get? l).isNone then System.note l
        System.share l
      | _ => pure ()
      return .ok (← p.opened f)
    | .error e => return .error e

/-- Open a file; the index of the open file is returned. Where a name stands for a
    descriptor, a file that is there is opened anew, and anything else is shared. -/
def openFile (p : Process) (name : String) (mode : OpenMode) : Act (Except Error Nat) := do
  match descriptorOf? name with
  | none => p.openPath name mode
  | some n =>
    match p.descriptors.lookup n with
    | none => return .error .notFound
    | some index =>
      let s ← get
      match s.openFiles[index]? with
      | some ⟨.file l, _, _, _, _⟩ =>
        if (s.files.get? l).isSome then p.openPath (spread (Tree.pathOf l).text) mode
        else return .ok index
      | _ => return .ok index

/-- Write byte text to a descriptor. -/
def write (p : Process) (descriptor : Nat) (text : String) : Act (Except Error Unit) :=
  match p.descriptors.lookup descriptor with
  | some index => System.write p.number index (toBytes text)
  | none => return .error .badDescriptor

/-- Write bytes to the output. If they are not taken, that is kept in mind. -/
def deliver (p : Process) (bytes : ByteArray) : Act Unit := do
  if bytes.isEmpty then return
  let result ← match p.descriptors.lookup 1 with
    | some index => System.write p.number index bytes
    | none => pure (.error .badDescriptor)
  match result with
  | .ok () => return
  | .error e =>
    modify fun s =>
      if s.losses.any (·.1 == p.number) then s
      else { s with losses := (p.number, e) :: s.losses }

/-- The size of the pieces in which output is written. -/
def outputBlock : Nat := 4096

/-- Take what has to be written to the output, in whole pieces or all of it. -/
def takeOutput (p : Process) (all : Bool) : Act ByteArray :=
  modifyGet fun s =>
    match s.buffers.lookup p.number with
    | none => (.empty, s)
    | some bytes =>
      let count := if all then bytes.size else bytes.size / outputBlock * outputBlock
      let rest := bytes.extract count bytes.size
      let others := s.buffers.filter (·.1 != p.number)
      (bytes.extract 0 count,
        { s with buffers := if rest.isEmpty then others else (p.number, rest) :: others })

/-- Write what has to be written to the output. -/
def flush (p : Process) : Act Unit := do p.deliver (← p.takeOutput true)

/-- Write byte text to the output; it may be kept back until there is more. -/
def say (p : Process) (text : String) : Act Unit := do
  if text.isEmpty then return
  let bytes := toBytes text
  let size ← modifyGet fun s =>
    match s.buffers with
    | (n, old) :: others =>
      if n = p.number then
        let new := old ++ bytes
        (new.size, { s with buffers := (n, new) :: others })
      else
        let new := ((s.buffers.lookup p.number).getD .empty) ++ bytes
        (new.size, { s with buffers := (p.number, new) :: s.buffers.filter (·.1 != p.number) })
    | [] => (bytes.size, { s with buffers := [(p.number, bytes)] })
  if outputBlock ≤ size then p.deliver (← p.takeOutput false)

/-- Write byte text to the output at once. -/
def sayNow (p : Process) (text : String) : Act Unit := do
  p.say text
  p.flush

/-- What was wrong when the output of a process was not taken. -/
def loss? (p : Process) : Act (Option Error) := do
  return (← get).losses.lookup p.number

/-- Write a line to the error output, whatever comes of it. -/
def complain (p : Process) (line : String) : Act Unit := do
  let _ ← p.write 2 (line ++ "\n")

/-- Read byte text from a descriptor. -/
def read (p : Process) (descriptor : Nat) (limit : Option Nat) : Act (Except Error String) := do
  match p.descriptors.lookup descriptor with
  | some index => return (← System.read index limit).map ofBytes
  | none => return .error .badDescriptor

/-- The bytes of a named file as byte text. -/
def readFile (p : Process) (name : String) : Act (Except Error String) := do
  match ← p.openFile name .read with
  | .ok index => return (← System.read index none).map ofBytes
  | .error e => return .error e

/-- The value of a variable. -/
def valueOf? (p : Process) (name : String) : Option String := p.environment.lookup name

/-- Let a descriptor stand for an open file. -/
def withDescriptor (p : Process) (descriptor index : Nat) : Process :=
  { p with descriptors := (descriptor, index) :: p.descriptors.filter (·.1 != descriptor) }

/-- The process that this one starts. -/
def child (p : Process) : Act Process := do
  return { p with number := ← System.newProcess, parent := p.number, kept := [] }

/-- Let the system know which open files a process can use, and where it is. -/
def hold (p : Process) : Act Unit :=
  modify fun s => (s.update p.number fun st =>
    { st with descriptors := p.descriptors, kept := p.kept, working := p.working }).seenBy p.number

/-- Let the system know that a process runs a program. -/
def become (p : Process) (name : String) (arguments : List String) : Act Unit :=
  modify fun s => (s.update p.number fun st =>
    { st with name, arguments, caught := [] }).seenBy p.number

/-- Use an open file without a descriptor. -/
def keeping (p : Process) (index : Nat) : Process := { p with kept := index :: p.kept }

/-- Start a process that was made as a child of another one. -/
def start (p : Process) (act : Act ExitStatus) : Act Unit := do
  modify fun s =>
    let parent := s.standing? p.parent
    { s with processes := s.processes ++ [{
        number := p.number, parent := p.parent, group := parent.elim p.number (·.group)
        ended := none, caught := [], ignored := parent.elim [] (·.ignored), pending := []
        stopped := false, name := parent.elim "" (·.name), arguments := parent.elim [] (·.arguments)
        working := p.working, descriptors := p.descriptors, kept := []
        rank := parent.elim 0 (·.rank), limits := parent.elim [] (·.limits) }] }
  Act.start p.number act

/-- Whether a number names a process as the target of a signal: zero names the group of the
    sender, a number below names the group of its opposite, and -1 names all others. -/
def isTarget (p : Process) (group : Nat) (target : Int) (st : Standing) : Bool :=
  if target = 0 then st.group == group
  else if target = -1 then st.number != p.number && st.parent != 0
  else if target < 0 then st.group == target.natAbs
  else st.number == target.natAbs

/-- Send a signal; whether there is a process that it reaches is returned. -/
def signal (p : Process) (signal : Nat) (target : Int) : Act Bool := do
  let s ← get
  let group := ((s.standing? p.number).map (·.group)).getD 0
  let reaches := p.isTarget group target
  if !s.processes.any reaches then return false
  modify (·.send signal reaches)
  if ((← get).standing? p.number).any fun st => st.stopped || st.fatal?.isSome then Act.pause
  return true

/-- Wait for the end of a process that this one has started. -/
def await (p : Process) (child : Nat) : Act ExitStatus := do
  Act.waitUntil fun s => (s.endedChild? p.number (· == child)).isSome || (s.standing? child).isNone
  match (← get).endedChild? p.number (· == child) with
  | some (number, how) =>
    modify (·.forget number)
    return how
  | none => return .exited 127

/-- Start a process, and wait for its end. -/
def carryOut (p child : Process) (act : Act ExitStatus) : Act ExitStatus := do
  child.start act
  p.await child.number

/-- What a process writes to its output until it has ended and nobody can write there
    any more, with how it ended. -/
def gatherOutput (p child : Process) (act : Act ExitStatus) : Act (ByteArray × ExitStatus) := do
  let (readEnd, writeEnd) ← System.addPipe
  (child.withDescriptor 1 writeEnd).start act
  (p.keeping readEnd).hold
  let bytes ← System.read readEnd none
  p.hold
  return (bytes.toOption.getD .empty, ← p.await child.number)

end Process

end CompileTree.Shell
