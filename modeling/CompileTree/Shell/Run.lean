import CompileTree.Shell.Extended.Invocation
import CompileTree.Shell.Act
import CompileTree.Shell.Utility

/-! # Running programs

What programs do when they are called by name: what they write, how they end and
what becomes of the files. Programs that call each other are followed to a fixed
depth.
-/

/-! ## Schedules

Processes take turns. The first one in a queue that can go on does so until it waits,
ends or has had its turn, and goes to the end of the queue; processes that it started
stand before it there. When none can go on, time passes until one can.
-/

namespace CompileTree.Shell

/-- A process that waits, with what it does then. -/
structure Thread where
  number : Nat
  wait : Wait
  resume : System → Course ExitStatus

namespace Thread

/-- A process that can go on. -/
def ready (number : Nat) (act : Act ExitStatus) : Thread := ⟨number, ⟨fun _ => true, none⟩, act⟩

/-- Whether a process was stopped. -/
def isStopped (t : Thread) (s : System) : Bool := (s.standing? t.number).any (·.stopped)

/-- Whether a process can go on. -/
def canGoOn (t : Thread) (s : System) : Bool :=
  !t.isStopped s && (t.wait.deadline.any (· ≤ s.clock) || t.wait.ready s)

/-- The signal that ends a process now. -/
def fatal? (t : Thread) (s : System) : Option Nat :=
  (s.standing? t.number).bind fun p =>
    p.fatal?.filter fun n => !p.stopped || n == Signal.kill

end Thread

namespace Schedule

/-- The longest turn, in nanoseconds. -/
def turn : Nat := 3000000

/-- The first time at which one of some processes goes on in any case. -/
def nextDeadline? (s : System) (threads : List Thread) : Option Nat :=
  (threads.filterMap fun t => if t.isStopped s then none else t.wait.deadline).min?

/-- A system in which a process has its turn, with others that wait. -/
def begin_ (s : System) (number : Nat) (others : List Thread) : System :=
  let longest := s.clock + turn
  { s.seenBy number with turnEnd := ((nextDeadline? s others).map (max (s.clock + 1))).elim longest (min longest) }

/-- What stands in the queue when one process was followed as far as it goes: a process that
    has started another one goes on at once, and the new one waits for its turn. -/
def follow (number : Nat) (others : List Thread) (c : Course ExitStatus) : List Thread × System :=
  match c with
  | .done how s => (others, s.finish number how)
  | .waiting w resume s => (others ++ [⟨number, w, resume⟩], s)
  | .starting child start resume s =>
    (.ready number resume :: others ++ [.ready child start], s)

/-- The processes that are not ended by signals, which end the others. -/
def survivors (threads : List Thread) (s : System) : List Thread × System :=
  match threads with
  | [] => ([], s)
  | t :: rest =>
    match t.fatal? s with
    | some n => survivors rest (s.finish t.number (.signaled n))
    | none =>
      let (kept, s) := survivors rest s
      (t :: kept, s)

/-- The first process that can go on, with the others. -/
def pick? (s : System) : List Thread → Option (Thread × List Thread)
  | [] => none
  | t :: rest =>
    if t.canGoOn s then some (t, rest)
    else (pick? s rest).map fun (u, others) => (u, t :: others)

/-- Let processes take turns until something holds or none can go on; `waits` tells
    whether time passes for that. -/
def work (finished : System → Bool) (waits : Bool) :
    Nat → List Thread → System → List Thread × System
  | 0, threads, s => (threads, s)
  | fuel + 1, threads, s =>
    let (threads, s) := survivors threads s
    if finished s then (threads, s)
    else
      match pick? s threads with
      | some (t, others) =>
        let (threads, s) := follow t.number others (t.resume (begin_ s t.number others))
        work finished waits fuel threads s
      | none =>
        match nextDeadline? s threads with
        | some time =>
          if waits then work finished waits fuel threads { s with clock := max s.clock time }
          else (threads, s)
        | none => (threads, s)

/-- How often processes may take turns. -/
def turnLimit : Nat := UInt64.size

end Schedule

/-! ## Programs and what they do -/

open Files Text

/-- The names of the shells, the extended one last. -/
def shellNames : List String := ["sh", "dash", "bash"]

/-- The names of the native programs. -/
def nativeNames : List String :=
  shellNames ++ Utility.programs.map (·.1) ++ Utility.callers.map (·.1)

/-- The users of a system. -/
def userList : String :=
  "root:x:0:0:root:/root:/bin/bash\ndaemon:x:1:1:daemon:/usr/sbin:/usr/sbin/nologin\n" ++
  "bin:x:2:2:bin:/bin:/usr/sbin/nologin\nsys:x:3:3:sys:/dev:/usr/sbin/nologin\n" ++
  "nobody:x:65534:65534:nobody:/nonexistent:/usr/sbin/nologin\n"

/-- The groups of a system. -/
def groupList : String :=
  "root:x:0:\ndaemon:x:1:\nbin:x:2:\nsys:x:3:\nnogroup:x:65534:\n"

/-- A system on which there are only the native programs. -/
def nativeTree : Tree :=
  let directories : List Location := [
    ["usr"], ["usr", "bin"], ["usr", "include"], ["usr", "lib"], ["usr", "lib64"],
    ["usr", "local"], ["usr", "local", "bin"], ["usr", "local", "sbin"], ["usr", "local", "lib"],
    ["usr", "local", "include"], ["usr", "sbin"], ["usr", "share"], ["usr", "src"], ["boot"],
    ["dev"], ["dev", "shm"], ["dev", "pts"], ["etc"], ["home"], ["media"], ["mnt"], ["opt"],
    ["proc"], ["root"], ["run"], ["srv"], ["sys"], ["tmp"], ["var"], ["var", "cache"],
    ["var", "lib"], ["var", "log"], ["var", "tmp"]]
  let links : List (Location × String) := [
    (["bin"], "usr/bin"), (["lib"], "usr/lib"), (["lib64"], "usr/lib64"), (["sbin"], "usr/sbin"),
    (["dev", "fd"], "/proc/self/fd"), (["var", "run"], "/run"), (["var", "lock"], "/run/lock")]
  let devices : List (String × Device) := [
    ("null", .nothing), ("full", .full), ("zero", .zeros), ("random", .noise),
    ("urandom", .noise), ("tty", .absent), ("stdin", .nothing), ("stdout", .stream .output),
    ("stderr", .stream .errors)]
  let texts : List (Location × String) := [
    (["etc", "passwd"], userList), (["etc", "group"], groupList),
    (["etc", "hostname"], "localhost\n"), (["etc", "hosts"], "127.0.0.1\tlocalhost\n"),
    (["etc", "shells"], "/bin/sh\n/usr/bin/sh\n/bin/bash\n/usr/bin/bash\n/bin/dash\n/usr/bin/dash\n")]
  { entries := directories.map (·, .directory) ++ links.map (fun (l, t) => (l, .link t)) ++
      devices.map (fun (name, d) => (["dev", name], .device d)) ++
      texts.map (fun (l, t) => (l, .file t.toUTF8 false)) ++
      nativeNames.map (fun name => (["usr", "bin", name], nativeProgram name))
    attributes := [(["tmp"], ⟨some 0o1777, Tree.startTime⟩), (["var", "tmp"], ⟨some 0o1777, Tree.startTime⟩),
      (["root"], ⟨some 0o700, Tree.startTime⟩), (["dev", "shm"], ⟨some 0o1777, Tree.startTime⟩)] }

/-- How long it takes to start a program. -/
def programTime : Nat := 500000

/-- Run a native program as a process; `depth` bounds how deep programs call each other. -/
def runNative : Nat → Process → String → List String → Act ExitStatus
  | 0, _, _, _ => return .exited 126
  | depth + 1, p, name, arguments => do
    Act.spend programTime
    p.become name arguments
    if name = "bash" then Extended.Invocation.shell (runNative depth) p arguments
    else if name ∈ shellNames then Invocation.shell (runNative depth) p arguments
    else
      let run : Act ExitStatus :=
        match Utility.programs.lookup name, Utility.callers.lookup name with
        | some program, _ => .exited <$> program p arguments
        | none, some program => program (runNative depth) p arguments
        | none, none => return .exited 0
      Utility.flushed name (arguments.headD name) p run

/-- How deep programs may call each other. -/
def callDepth : Nat := 1200

/-- What a program wrote, how it ended, and the files and the time that it left. -/
structure Finished where
  written : Written
  status : ExitStatus
  files : Tree
  clock : Nat

/-- Where the outputs of a program go. -/
inductive Destination where
  /-- To a file. -/
  | log (l : Location)
  /-- To where the outputs of the caller go. -/
  | shared
  /-- To the caller, which waits until nobody can write any more. -/
  | captured
  deriving DecidableEq, Repr

/-- Where programs are called. -/
structure Surroundings where
  files : Tree
  working : Location
  environment : List (String × String)
  destination : Destination
  /-- The process that calls, and the one that is called. -/
  caller : Nat
  process : Nat
  /-- The time in nanoseconds. -/
  clock : Nat

/-- The open files of a program that is called: an empty input and two outputs. -/
def openFiles (d : Destination) : Array OpenFile :=
  let outputs : List Endpoint := match d with
    | .log l => [.file l]
    | _ => [.device (.stream .output), .device (.stream .errors)]
  (⟨.device .nothing, 0, true, false, false⟩ ::
    outputs.map (⟨·, 0, false, true, false⟩)).toArray

/-- The descriptors of a program that is called, with their open files. -/
def descriptors (d : Destination) : List (Nat × Nat) :=
  match d with
  | .log _ => [(0, 0), (1, 1), (2, 1)]
  | _ => [(0, 0), (1, 1), (2, 2)]

/-- A process that is there from the start. -/
def standing (number parent : Nat) (working : Location) (descriptors : List (Nat × Nat)) :
    Standing where
  number := number
  parent := parent
  group := parent
  ended := none
  caught := []
  ignored := []
  pending := []
  stopped := false
  name := ""
  arguments := []
  working := working
  descriptors := descriptors
  kept := []

/-- How many pipes with names stand in a tree, at least. -/
def queueCount (t : Tree) : Nat :=
  t.entries.foldl (fun n e =>
    match e.2 with
    | .device (.queue k) => max n (k + 1)
    | _ => n) 0

/-- How long processes go on that outlive the program that is called. -/
def afterglow : Nat := 20000000

/-- Let a program run to its end, and then what it has left behind: until nobody can write
    to its outputs if they are captured, and for a moment otherwise. -/
def finish (d : Destination) (number : Nat) (act : Act ExitStatus) (start : System) : System :=
  let isOver (s : System) : Bool := (s.standing? number).all (·.ended.isSome)
  let (threads, s) := Schedule.work isOver true Schedule.turnLimit [.ready number act] start
  let isOutput (f : OpenFile) : Bool :=
    match f.endpoint with
    | .device (.stream _) => true
    | _ => false
  let rest := if d = .captured then
      Schedule.work (fun s => !s.holds isOutput) true Schedule.turnLimit threads s
    else
      let end_ := s.clock + afterglow
      Schedule.work (fun s => end_ ≤ s.clock) false Schedule.turnLimit threads s
  rest.2

/-- Run the program that is called by a name. -/
def runProgram (here : Surroundings) (name : String) (arguments : List String) :
    Except Error Finished := do
  let d := here.destination
  let p : Process := {
    number := here.process, parent := here.caller, working := here.working
    environment := here.environment.map fun v => (spread v.1, spread v.2)
    descriptors := descriptors d, kept := [], mask := Process.usualMask }
  let (native, arguments) ← findRunner here.files p (spread name) (arguments.map spread)
  let own := here.files.entries.takeWhile fun e => e.1.head? == some processRoot
  let start : System := {
    files := withProcesses here.files [], shared := [], openFiles := openFiles d
    pipes := Array.replicate (queueCount here.files) (.ofBytes .empty), written := #[]
    processes :=
      [standing here.caller 0 [] [], standing p.number p.parent p.working p.descriptors]
    nextProcess := here.process + 1, buffers := [], losses := [], clock := here.clock, turnEnd := here.clock }
  let s := finish d p.number (runNative callDepth p native arguments) start
  let status := ((s.standing? p.number).bind (·.ended)).getD (.signaled Signal.kill)
  return ⟨s.written.toList, status, withProcesses s.files own, s.clock⟩

end CompileTree.Shell
