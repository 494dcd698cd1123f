import CompileTree.Shell.Expansion

/-! # Running parts of a script

How texts are run as commands, how commands run in processes of their own, how a
shell ends and where descriptors lead while a command runs. How a single command
runs is left open here.
-/

namespace CompileTree.Shell

open Files Script Text Run

/-- How commands and programs are run. -/
structure Engine where
  run (c : Statement) (m : Manner) : Run Nat
  /-- Run a native program as a process. The first argument is what it is called. -/
  call (p : Process) (name : String) (arguments : List String) : Act ExitStatus

namespace Run

/-- The status that stands for the end of a process, which is told of if a signal has
    ended it. -/
def settled (how : ExitStatus) : Run Nat := do
  match how with
  | .exited n => return n
  | .signaled n =>
    if n ≠ 2 ∧ n ≠ 13 then
      let text := match Signal.ofNumber? n with
        | some signal => signal.description
        | none => "Unknown signal " ++ toString n
      perform ((← get).process.complain text)
    return 128 + n

end Run

namespace Engine

variable (e : Engine)

/-- What can be read of an open file, with the limit given. A NUL in it does not count. -/
def unreadOf (file : Option Nat) (limit : Option Nat) : Run (List Char) := do
  match file with
  | none => return []
  | some index =>
    match ← perform (System.read index limit) with
    | .ok bytes => return (ofBytes bytes).toList.filter (· ≠ '\x00')
    | .error _ => return []

/-- Whether the end of a text was reached. -/
def isAtEnd (source : Source) : Bool :=
  match source.pushed with
  | some .finish => true
  | _ => false

/-- How much of a pipe is read at once. -/
def inputBlock : Nat := 8192

/-- Run the lines of a text that is left to be read; `fuel` bounds their number. The
    lines of a file may be shown before they run, and what they add to the file is run
    too. A pipe, from which more may come, is read only as far as the lines need it. -/
def runLines (m : Manner) (file : Option Nat) : Nat → Bool → Source → Nat → Run Nat
  | 0, _, _, status => return status
  | fuel + 1, streams, source, status => do
    let added ← if streams || isAtEnd source then pure [] else unreadOf file none
    let source := if added.isEmpty then source else { source with rest := source.rest ++ added }
    let left := source.rest.length
    let s ← get
    let source := { source with
      nextDocument := s.nextDocument, documents := [], aliases := s.aliases }
    let line := Reader.line.run source
    let needsMore := match line with
      | .ok (some _, after) => isAtEnd after
      | _ => true
    if streams && needsMore then
      let added ← unreadOf file (some inputBlock)
      return ← runLines m file fuel (!added.isEmpty) { source with rest := source.rest ++ added } status
    match line with
    | .error f =>
      modify fun s => { s with line := f.line }
      fault ("Syntax error: " ++ f.text) 2
    | .ok (none, after) =>
      showRead (source.rest.take (left - after.rest.length))
      return status
    | .ok (some c, after) =>
      showRead (source.rest.take (left - after.rest.length))
      let source := after
      modify fun s => { s with
        nextDocument := source.nextDocument
        reached := source.line
        documents := source.documents ++ s.documents }
      let isNothing := match c with
        | .nothing => true
        | _ => false
      if isNothing || (← get).has 'n' then runLines m file fuel streams source status
      else
        let status ← e.run c { m with last := m.last && isAtEnd source }
        runLines m file fuel streams source status
where
  showRead (cs : List Char) : Run Unit := do
    let s ← get
    if file.isSome && s.has 'v' && !cs.isEmpty then
      let _ ← perform (s.process.write 2 (String.ofList cs))

/-- Run a text as commands. -/
def evaluate (m : Manner) (text : String) : Run Nat := do
  let reached := (← get).reached
  anyway (runLines e m none (text.length + 1) false (Source.ofText 0 text.toList) 0)
    (modify fun s => { s with reached })

/-- How many lines of a file may be run. -/
def lineLimit : Nat := UInt32.size

/-- Run the text of an open file as commands. -/
def evaluateFile (index : Nat) : Run Nat := do
  let reached := (← get).reached
  changeProcess (·.keeping index)
  let streams := ((← getThe System).pipeOf? index).isSome
  anyway (runLines e .plain (some index) lineLimit streams (Source.ofText 0 []) 0)
    do
      modify fun s => { s with reached }
      changeProcess fun p => { p with kept := p.kept.erase index }

/-- Carry out what is to be done about a signal. -/
def take (signal : Nat) : Run Unit := do
  let s ← get
  match s.traps.lookup signal with
  | none | some "" => return
  | some action =>
    let _ ← evaluate e .plain action
    modify fun after => { after with status := s.status }

/-- Carry out what is to be done about the signals that have arrived. -/
def arrivals : Run Unit := do
  (← arrived).forM (take e)

/-- How a shell ends that ends with a status. -/
def leave (status : Nat) : Run ExitStatus := do
  let s ← get
  match s.traps.lookup 0 with
  | none => return .exited (status % 256)
  | some action =>
    set { s with traps := s.traps.filter (·.1 != 0), status, command := none }
    tryCatch
      (do
        let _ ← evaluate e .plain action
        return .exited (status % 256))
      fun
        | .exit n | .fault n => return .exited (n % 256)
        | .ended how => return how
        | _ => return .exited (status % 256)

/-- Run something to the end of the shell. -/
def conclude (r : Run Nat) : Run ExitStatus := do
  tryCatch
    (do
      let n ← r
      arrivals e
      leave e n)
    fun
      | .exit n | .fault n | .back n => leave e n
      | .ended how => return how
      | .leave _ | .again _ => do leave e (← get).status

/-- What a part of a script does as a process of its own. -/
def asProcess (s : Session) (p : Process) (r : Run Nat) : Act ExitStatus := do
  match ← (conclude e r).run.run (s.separate p) with
  | (.ok how, _) => return how
  | (.error (.ended how), _) => return how
  | (.error _, s) => return .exited s.status

/-- Start a part of a script as a process of its own. -/
def begin_ (p : Process) (r : Run Nat) : Run Unit := do
  tidyJobs
  perform (p.start (asProcess e (← get) p r))

/-- Run a part of a script as a process of its own, and wait for it. -/
def forked (p : Process) (r : Run Nat) : Run Nat := do
  begin_ e p r
  settled (← await p.number)

/-- What a command writes to its output. -/
def output (c : Statement) : Run String := do
  let (readEnd, writeEnd) ← perform System.addPipe
  let p ← perform (← get).process.child
  begin_ e (p.withDescriptor 1 writeEnd) (e.run c ⟨false, true⟩)
  changeProcess (·.keeping readEnd)
  let bytes ← perform (System.read readEnd none)
  changeProcess fun p => { p with kept := p.kept.erase readEnd }
  let status ← settled (← await p.number)
  modify fun s => { s with substituted := status }
  return ofBytes (bytes.toOption.getD .empty)

/-- The fields of a word. -/
def fields (w : Word) : Run (List String) := Expansion.fields (output e) w

/-- The text of a word. -/
def text (w : Word) : Run String := Expansion.text (output e) w

end Engine

/-- A redirection whose words were expanded. -/
inductive Route where
  | file (descriptor : Nat) (access : Access) (name : String)
  | copy (descriptor source : Nat)
  | close (descriptor : Nat)
  | document (descriptor number : Nat)
  deriving DecidableEq, Repr

namespace Route

/-- The descriptor that a route changes. -/
def descriptor : Route → Nat
  | file d .. | copy d _ | close d | document d _ => d

/-- Why a file cannot be opened. -/
def reason (missing : String) : Error → String
  | .notFound | .notADirectory => missing
  | e => e.text

/-- How a file is opened. -/
def mode (spares : Bool) : Access → OpenMode
  | .read => .read
  | .write => if spares then .fresh else .write
  | .force => .write
  | .append => .append
  | .update => .update

/-- The route of a redirection. -/
def ofRedirection (e : Engine) : Redirection → Run Route
  | .file d access name => return .file d access (← e.text name)
  | .document d number => return .document d number
  | .copy d source => do
    match (← e.text source).toList with
    | ['-'] => return .close d
    | [c] => if c.isDigit then return .copy d (c.toNat - 48) else bad
    | _ => bad
where
  bad : Run Route := do
    modify fun s => { s with line := s.reached }
    fault "Syntax error: Bad fd number" 2

/-- Let a descriptor lead where a route tells. -/
def take (e : Engine) (r : Route) : Run Unit := do
  let s ← get
  match r with
  | .close d => close d
  | .copy d source =>
    match s.process.descriptors.lookup source with
    | some index => lead d index
    | none =>
      close d
      fault (toString source ++ ": " ++ Error.badDescriptor.text) 2
  | .document d number =>
    let text ← Expansion.text e.output ((s.documents.lookup number).getD [])
    lead d (← perform (System.addDocument (toBytes text)))
  | .file d access name =>
    match ← perform (s.process.openFile name (mode (s.has 'C') access)) with
    | .ok index => lead d index
    | .error reason_ =>
      if access = .read then
        fault ("cannot open " ++ name ++ ": " ++ reason "No such file" reason_) 2
      else fault ("cannot create " ++ name ++ ": " ++ reason "Directory nonexistent" reason_) 2
where
  close (d : Nat) : Run Unit :=
    changeProcess fun p => { p with descriptors := p.descriptors.filter (·.1 != d) }
  lead (d index : Nat) : Run Unit := changeProcess (·.withDescriptor d index)

/-- Bring back what descriptors of routes led to. -/
def undo (before : List (Nat × Nat)) (routes : List Route) : Run Unit := do
  if routes.isEmpty then return
  changeProcess fun p =>
    let changed := routes.map descriptor
    let others := p.descriptors.filter fun d => d.1 ∉ changed
    let old := before.filter fun d => d.1 ∈ changed
    { p with descriptors := old ++ others }

end Route

namespace Engine

variable (e : Engine)

/-- Let descriptors lead where redirections tell; a status is returned if that fails. -/
def redirect (routes : List Route) : Run (Option Nat) :=
  tryCatch
    (do
      routes.forM (Route.take e)
      return none)
    fun
      | .fault n => return some n
      | j => throw j

end Engine

end CompileTree.Shell
