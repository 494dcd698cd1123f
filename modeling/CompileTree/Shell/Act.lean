import CompileTree.Shell.System

/-! # Acts

What processes do. An act goes on until it is done, has to wait, or starts a
process; what comes after that is kept with it, so that other processes can act in
between.
-/

namespace CompileTree.Shell

/-- What a process waits for. -/
structure Wait where
  /-- Whether the process can go on. -/
  ready : System → Bool
  /-- The time at which it goes on in any case. -/
  deadline : Option Nat

/-- How far an act has got, with the system as it is then. -/
inductive Course : Type → Type 1 where
  | done {α : Type} (a : α) (s : System) : Course α
  | waiting {α : Type} (w : Wait) (resume : System → Course α) (s : System) : Course α
  /-- Another process starts, and the act goes on. -/
  | starting {α : Type} (number : Nat) (start : System → Course ExitStatus)
      (resume : System → Course α) (s : System) : Course α

/-- Go on with something when a course is done. -/
def Course.bind {α β : Type} (c : Course α) (f : α → System → Course β) : Course β :=
  match c with
  | .done a s => f a s
  | .waiting w resume s => .waiting w (fun s => (resume s).bind f) s
  | .starting number start resume s => .starting number start (fun s => (resume s).bind f) s

/-- What a process does. -/
def Act (α : Type) : Type 1 := System → Course α

namespace Act

/-- Do one thing after another. -/
@[noinline] def andThen {α β : Type} (a : Act α) (f : α → Act β) : Act β :=
  fun s => (a s).bind f

instance : Monad Act where
  pure a := fun s => .done a s
  bind := andThen

instance : MonadStateOf System Act where
  get := fun s => .done s s
  set s := fun _ => .done () s
  modifyGet f := fun s =>
    let (a, s) := f s
    .done a s

/-- Wait until something holds. -/
def waitUntil (ready : System → Bool) : Act Unit := fun s =>
  if ready s then .done () s else .waiting ⟨ready, none⟩ (fun s => .done () s) s

/-- Wait until something holds or a time has come. -/
def waitUntilTime (ready : System → Bool) (time : Nat) : Act Unit := fun s =>
  if ready s || time ≤ s.clock then .done () s
  else .waiting ⟨ready, some time⟩ (fun s => .done () s) s

/-- Let other processes act. -/
def pause : Act Unit := fun s => .waiting ⟨fun _ => true, none⟩ (fun s => .done () s) s

/-- Let time pass; other processes act if it is their turn. -/
def spend (time : Nat) : Act Unit := fun s =>
  let s := { s with clock := s.clock + time }
  if s.turnEnd ≤ s.clock then .waiting ⟨fun _ => true, none⟩ (fun s => .done () s) s
  else .done () s

/-- Start a process. -/
def start (number : Nat) (act : Act ExitStatus) : Act Unit := fun s =>
  .starting number act (fun s => .done () s) s

end Act

/-! ## Limits

What a process may use of what there is: of every kind there is a limit in force, which
the process may move up to a highest one. Processes inherit the limits of those that
start them.
-/

/-- A limit; nothing stands for no limit. -/
structure Limit where
  /-- The limit that is in force. -/
  soft : Option Nat
  /-- The highest limit that may be set. -/
  hard : Option Nat
  deriving DecidableEq, Repr

namespace Limit

/-- Whether one bound is at most another one. -/
def atMost : Option Nat → Option Nat → Bool
  | _, none => true
  | none, some _ => false
  | some m, some n => m ≤ n

/-- A limit that nobody has set, by the letter for its kind. -/
def usual (kind : Char) : Limit :=
  match kind with
  | 's' => ⟨some 8388608, none⟩
  | 'n' => ⟨some 1048576, some 1048576⟩
  | 'l' => ⟨some 8388608, some 8388608⟩
  | 'i' => ⟨some 127235, some 127235⟩
  | 'q' => ⟨some 819200, some 819200⟩
  | 'e' | 'r' => ⟨some 0, some 0⟩
  | _ => ⟨none, none⟩

/-- The limit of a kind that a process has. -/
def ofProcess (s : System) (process : Nat) (kind : Char) : Limit :=
  match (s.standing? process).bind (·.limits.lookup kind) with
  | some (soft, hard) => ⟨soft, hard⟩
  | none => usual kind

/-- Set a limit of a process, which may not raise the highest one. -/
def change (l : Limit) (process : Nat) (kind : Char) : Act (Except Files.Error Unit) := do
  let old := ofProcess (← get) process kind
  if !atMost l.soft l.hard then return .error .invalidArgument
  if !atMost l.hard old.hard then return .error .notPermitted
  modify (·.update process fun st =>
    { st with limits := (kind, l.soft, l.hard) :: st.limits.filter (·.1 != kind) })
  return .ok ()

end Limit

/-! ## Files of processes

What the files below the directory of processes tell of them: a directory for every
process, and a link to that of the process that looks. They stand before all other
files of a tree, so that they are found there again and can be renewed.
-/

open Files Text

/-- The directory of processes. -/
def processRoot : String := "proc"

/-- The files that tell of a process. -/
def processFiles (number : Nat) (name : String) (arguments : List String) (working : Location)
    (descriptors : List (Nat × Entry)) : List (Location × Entry) :=
  let base : Location := [processRoot, toString number]
  let text (t : String) : Entry := .file (toBytes t) false
  [(base, .directory), (base ++ ["cwd"], .link (Tree.pathOf working).text),
    (base ++ ["exe"], .link ("/usr/bin/" ++ name)), (base ++ ["root"], .link "/"),
    (base ++ ["comm"], text (String.ofList (name.toList.take 15) ++ "\n")),
    (base ++ ["cmdline"], text (String.join (arguments.map (· ++ "\x00")))),
    (base ++ ["task"], .directory), (base ++ ["task", toString number], .directory),
    (base ++ ["fd"], .directory)] ++
    descriptors.map fun (d, e) => (base ++ ["fd", toString d], e)

/-- A tree with files of processes before all others. -/
def withProcesses (t : Tree) (entries : List (Location × Entry)) : Tree :=
  let others := t.entries.dropWhile fun e => e.1.head? == some processRoot
  { t with entries := entries ++ others }

/-- A tree as a program sees it that is the only process. -/
def seenAlone (t : Tree) (number : Nat) (name : String) (working : Location) : Tree :=
  withProcesses t (([processRoot, "self"], .link (toString number)) ::
    processFiles number name [name] working
      [(0, .device .nothing), (1, .device (.stream .output)), (2, .device (.stream .errors))])

namespace System

/-- How the place of an open file is told. -/
def placeText (f : OpenFile) (index : Nat) : String :=
  match f.endpoint with
  | .device .nothing => "/dev/null"
  | .device .full => "/dev/full"
  | .device .zeros => "/dev/zero"
  | .device .noise => "/dev/urandom"
  | .device .absent => "/dev/tty"
  | .device (.stream _) => "pipe:[" ++ toString (1000 + index) ++ "]"
  | .device (.queue n) | .pipe n => "pipe:[" ++ toString (2000 + n) ++ "]"
  | .file l | .directory l => (Tree.pathOf l).text
  | .buffer _ => "/tmp/#" ++ toString index ++ " (deleted)"

/-- A system whose files tell of its processes as one of them sees them. -/
def seenBy (s : System) (number : Nat) : System :=
  let one (p : Standing) : List (Location × Entry) :=
    let descriptors := (p.descriptors.mergeSort fun a b => a.1 ≤ b.1).map fun (d, index) =>
      (d, Entry.link ((s.openFiles[index]?).elim "" (placeText · index)))
    processFiles p.number p.name p.arguments p.working descriptors
  let all := (s.processes.filter (·.parent != 0)).flatMap one
  { s with files :=
      withProcesses s.files (([processRoot, "self"], .link (toString number)) :: all) }

end System

end CompileTree.Shell
