import CompileTree.Shell.Extended.Expansion
import CompileTree.Shell.Extended.Jobs

/-! # Running parts of a script of the extended shell

How texts are run as commands, how commands run in processes of their own, how a shell
ends and how words are expanded on the way. How a single command runs is left open here.
-/

namespace CompileTree.Shell.Extended

open Files Text Step

/-- How commands and programs are run. -/
structure Runner where
  run (c : Statement) (m : Manner) : Step Nat
  /-- Run a native program as a process. The first argument is what it is called. -/
  call (p : Process) (name : String) (arguments : List String) : Act ExitStatus

namespace Runner

variable (e : Runner)

/-- What can be read of an open file, with the limit given. A NUL in it does not count. -/
def unreadOf (file : Option Nat) (limit : Option Nat) : Step (List Char) := do
  match file with
  | none => return []
  | some index =>
    match ← perform (System.read index limit) with
    | .ok bytes => return (ofBytes bytes).toList.filter (· ≠ '\x00')
    | .error _ => return []

/-- Whether the end of a text was reached. -/
def isAtEnd (source : Source) : Bool :=
  match source.pushed with
  | some .finish => true
  | _ => false

/-- How much of a pipe is read at once. -/
def inputBlock : Nat := 8192

/-- So many lines at the start of a text. -/
def firstLines : Nat → List Char → List Char
  | 0, _ => []
  | count + 1, cs =>
    let line := cs.takeWhile (· ≠ '\n')
    line ++ (cs.drop line.length).take 1 ++ firstLines count (cs.drop (line.length + 1))

/-- Tell what is wrong with a text that is read, or what is odd about it. -/
def tell (line : Nat) (message : String) (named : Bool) : Step Unit := do
  let s ← get
  let name := match s.reading, named with
    | some text, true => ": " ++ text
    | _, _ => ""
  perform (s.process.complain
    (s.complainer ++ name ++ ": line " ++ toString (s.base + line) ++ ": " ++ message))

/-- Tell what is wrong with a text that is read. -/
def tellFault (f : Fault) : Step Unit := do
  for message in f.messages do tell f.line message true
  match f.shown with
  | some text => tell f.line ("\x60" ++ text ++ "'") true
  | none => return

/-- Run a line of commands; what gives it up gives up nothing else, except in a process of
    its own. -/
def runLine (c : Statement) (m : Manner) : Step Nat :=
  tryCatch (e.run c m) fun
    | .discard n => do
      if 0 < (← get).subshells then throw (.exit n)
      modify fun s => { s with status := n, statuses := [n] }
      return n
    | j => throw j

/-- Run the lines of a text that is left to be read; `fuel` bounds their number. What the
    lines of a file add to the file is run too. A pipe, from which more may come, is read
    only as far as the lines need it. -/
def runLines (m : Manner) (file : Option Nat) : Nat → Bool → Source → Nat → Step Nat
  | 0, _, _, status => return status
  | fuel + 1, streams, source, status => do
    notices
    let added ← if streams || isAtEnd source then pure [] else unreadOf file none
    let grown (source : Source) (added : List Char) : Source :=
      if added.isEmpty then source
      else { source with rest := source.rest ++ added, current := source.current ++ added }
    let source := grown source added
    let left := source.rest.length
    let s ← get
    let source := { source with
      nextDocument := s.nextDocument, documents := [], warnings := []
      alternatives := s.hasExtra "extglob"
      aliases := if s.hasExtra "expand_aliases" then s.aliases else [] }
    let line := Reader.line.run source
    let needsMore := match line with
      | .ok (some _, after) => isAtEnd after
      | _ => true
    if streams && needsMore then
      let added ← unreadOf file (some inputBlock)
      return ← runLines m file fuel (!added.isEmpty) (grown source added) status
    match line with
    | .error f =>
      -- A fault without a line that is shown lies at the end of the text.
      let line := if f.shown.isNone then source.rest
        else firstLines (f.line + 1 - source.line) source.rest
      showRead (if f.onlyLine then line else source.rest)
      tellFault f
      if f.onlyLine then
        if 0 < (← get).subshells then throw (.exit 1)
        modify fun s => { s with status := 1, statuses := [1] }
        let rest := source.rest.drop line.length
        runLines m file fuel streams
          { source with rest, line := f.line + 1, current := rest, pushed := none } 1
      else
        modify fun s => { s with status := 2 }
        return 2
    | .ok (none, after) =>
      showRead (source.rest.take (left - after.rest.length))
      return status
    | .ok (some c, after) =>
      showRead (source.rest.take (left - after.rest.length))
      for (line, message) in after.warnings do tell line message true
      modify fun s => { s with
        nextDocument := after.nextDocument, documents := after.documents ++ s.documents
        line := s.base + after.lastLine }
      let isNothing := match c with
        | .nothing => true
        | _ => false
      if isNothing || (← get).has "noexec" then runLines m file fuel streams after status
      else
        let status ← runLine e c { m with last := m.last && isAtEnd after && c.endsBare }
        if (← get).has "onecmd" then return status
        runLines m file fuel streams after status
where
  showRead (cs : List Char) : Step Unit := do
    let s ← get
    if s.has "verbose" && !cs.isEmpty then
      let _ ← perform (s.process.write 2 (String.ofList cs))

/-- Do something while a text is read, the lines of which are counted from a line on. -/
def reading {α : Type} (name : Option String) (base : Nat) (r : Step α) : Step α := do
  let s ← get
  set { s with reading := name, base, level := s.level + 1 }
  anyway r (modify fun after => { after with
    reading := s.reading, base := s.base, level := s.level })

/-- Run a text as commands; the name is told where the text is faulty. -/
def evaluate (m : Manner) (name : Option String) (base : Nat) (text : String) : Step Nat := do
  let extended := (← get).hasExtra "extglob"
  reading name base
    (runLines e m none (text.length + 2) false (Source.ofText 0 extended text.toList) 0)

/-- How many lines of a file may be run. -/
def lineLimit : Nat := UInt32.size

/-- Run the text of an open file as commands. -/
def evaluateFile (index : Nat) : Step Nat := do
  changeProcess (·.keeping index)
  let streams := ((← getThe System).pipeOf? index).isSome
  let s ← get
  set { s with reading := none, base := 0 }
  anyway (runLines e .plain (some index) lineLimit streams (Source.ofText 0 false []) 0)
    do
      modify fun after => { after with reading := s.reading, base := s.base }
      changeProcess fun p => { p with kept := p.kept.erase index }

/-- Carry out what is to be done about a signal, or about something that stands for one; it
    is not done again meanwhile if it is no signal. -/
def take (signal : Nat) : Step Unit := do
  let s ← get
  match s.traps.lookup signal with
  | none | some "" => return
  | some action =>
    let isSignal := signal ≤ 64
    set { s with
      command := none, handling := true
      traps := if isSignal then s.traps else s.traps.filter (·.1 != signal) }
    let _ ← evaluate e .plain (some "trap handler") (if isSignal then 0 else s.line - 1) action
    modify fun after => { after with
      status := s.status, statuses := s.statuses, command := s.command, line := s.line
      handling := s.handling
      traps := if isSignal || (after.traps.lookup signal).isSome then after.traps
        else (signal, action) :: after.traps }

/-- Carry out what is to be done about the signals that have arrived. -/
def arrivals : Step Unit := do
  (← arrived).forM (take e)

/-- How a shell ends that ends with a status. -/
def leave (status : Nat) : Step ExitStatus := do
  let s ← get
  match s.traps.lookup 0 with
  | none | some "" => return .exited (status % 256)
  | some action =>
    set { s with traps := s.traps.filter (·.1 != 0), status, command := none }
    tryCatch
      (do
        let _ ← evaluate e .plain (some "exit trap") 0 action
        return .exited (status % 256))
      fun
        | .exit n => return .exited (n % 256)
        | .ended how => return how
        | _ => return .exited (status % 256)

/-- Run something to the end of the shell. -/
def conclude (r : Step Nat) : Step ExitStatus := do
  tryCatch
    (do
      let n ← r
      arrivals e
      leave e n)
    fun
      | .exit n | .discard n | .back n => leave e n
      | .ended how => return how
      | .leave _ | .again _ => do leave e (← get).status

/-- What a part of a script does as a process of its own. -/
def asProcess (s : State) (p : Process) (r : Step Nat) : Act ExitStatus := do
  match ← (conclude e r).run.run (s.separate p) with
  | (.ok how, _) => return how
  | (.error (.ended how), _) => return how
  | (.error _, s) => return .exited s.status

/-- Start a part of a script as a process of its own. It is not joined to what works beside
    the shell. -/
def begin_ (p : Process) (r : Step Nat) : Step Unit := do
  forget (·.waited)
  if !(← get).jobs.isEmpty then reap
  let s ← get
  let p := s.alone p
  perform (p.start (asProcess e s p r))

/-- The status that stands for the end of a process, which is told of if a signal has
    ended it. -/
def settled (number : Nat) (how : ExitStatus) (title : String) : Step Nat := do
  tellEnd true (some how) [⟨number, some how, title⟩]
  notices
  return statusOf how

/-- Run a part of a script as a process of its own, and wait for it. -/
def forked (p : Process) (title : String) (r : Step Nat) : Step Nat := do
  begin_ e p r
  settled p.number (← await p.number) title

/-- What is written by something that is run as a process of its own. -/
def written (r : Step Nat) : Step String := do
  let (readEnd, writeEnd) ← perform System.addPipe
  let p ← perform (← get).process.child
  let quiet : Step Nat := do
    modify fun s =>
      let options := if s.hasExtra "inherit_errexit" then s.options
        else s.options.filter (· ≠ "errexit")
      { s with options, isSubstitution := true }
    r
  begin_ e (p.withDescriptor 1 writeEnd) quiet
  changeProcess (·.keeping readEnd)
  let bytes ← perform (System.read readEnd none)
  changeProcess fun p => { p with kept := p.kept.erase readEnd }
  let how ← await p.number
  let status := statusOf how
  modify fun s => { s with substituted := some status, status }
  let text := ofBytes (bytes.toOption.getD .empty)
  if text.contains '\x00' then
    named none (complain "warning: command substitution: ignored null byte in input")
  return text

/-- What a command within a word writes. -/
def output (c : Statement) : Step String := do
  let line := (← get).line
  written e do
    modify fun s => { s with base := line, level := s.level + 1 }
    e.run c ⟨false, c.endsBare⟩

/-- What a text writes that is run as commands. -/
def lateOutput (text : String) : Step String := do
  let line := (← get).line
  written e (evaluate e ⟨false, true⟩ (some "command substitution") (line - 1) text)

/-- The highest descriptor by which a command is joined to another one. -/
def highestChannel : Nat := 63

/-- Start a command that is joined to this one by a pipe, and name the file that leads
    there. -/
def channel (reads : Bool) (c : Statement) : Step String := do
  let s ← get
  let (readEnd, writeEnd) ← perform System.addPipe
  let p ← perform s.process.child
  let p := if reads then p.withDescriptor 1 writeEnd else p.withDescriptor 0 readEnd
  begin_ e p do
    modify fun inner => { inner with
      base := s.line, channels := []
      options := inner.options.filter (· ≠ "errexit") }
    e.run c ⟨false, c.isAlone || c.endsBare⟩
  noteJob false [(p.number, Printing.command c)]
  let used := s.process.descriptors.map (·.1)
  let d := (((List.range highestChannel).map (highestChannel - ·)).find? (!used.contains ·)).getD 3
  changeProcess (·.withDescriptor d (if reads then readEnd else writeEnd))
  modify fun s => { s with channels := (d, p.number) :: s.channels }
  return "/dev/fd/" ++ toString d

/-- Take the descriptors away by which a command was joined to others since some time. -/
def closeChannels (before : List (Nat × Nat)) : Step Unit := do
  let s ← get
  let new := s.channels.filter fun c => !before.contains c
  if !new.isEmpty then
    set { s with channels := before }
    changeProcess fun p =>
      { p with descriptors := p.descriptors.filter fun d => !(new.any (·.1 == d.1)) }

/-- What words need from what runs commands. -/
def outside : Expansion.Outside where
  output c := output e c
  late text := lateOutput e text
  channel reads c := channel e reads c

/-- The fields of a word. -/
def fields (w : Word) : Step (List String) := Expansion.fields (outside e) w

/-- The text of a word. -/
def text (w : Word) : Step String := Expansion.text (outside e) w

end Runner

end CompileTree.Shell.Extended
