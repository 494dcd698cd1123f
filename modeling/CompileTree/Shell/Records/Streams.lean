import CompileTree.Shell.Records.State

/-! # Streams of programs that treat records

Records are read from files and from commands, and written to others. A stream is known
by its name from its first use until it is closed. What is written is kept back until
there is enough of it, something else is run, or the stream is closed.
-/

namespace CompileTree.Shell.Records

open Files Text
open Utility (Regex Caller)

/-- How much is read at once, and how much is kept back. -/
def blockSize : Nat := 4096

/-- The first record of what was read, with what is left; nothing if more has to be read. -/
def cutRecord (separator : Separator) (isEnded : Bool) (cs : List Char) :
    Option (List Char × List Char) :=
  let last := if isEnded && !cs.isEmpty then some (cs, []) else none
  match separator with
  | .character c =>
    let line := cs.takeWhile (· != c)
    match cs.drop line.length with
    | _ :: rest => some (line, rest)
    | [] => last
  | .pattern r =>
    match r.search id [] cs with
    | some m =>
      if m.matched.isEmpty || (m.after.isEmpty && !isEnded) then last
      else some (m.before, m.after)
    | none => last
  | .paragraph =>
    let cs := cs.dropWhile (· == '\n')
    let rec upToGap : List Char → Option (List Char × List Char)
      | '\n' :: '\n' :: rest => some ([], rest)
      | c :: rest => (upToGap rest).map fun (line, rest) => (c :: line, rest)
      | [] => none
    match upToGap cs with
    | some (line, rest) => some (line, rest)
    | none =>
      if !isEnded || cs.isEmpty then none
      else some (if cs.getLast? = some '\n' then cs.dropLast else cs, [])

/-- Read the next record; `fuel` bounds the number of pieces that are read. -/
def readRecord (separator : Separator) : Nat → Source → Act (Except Error (Option String × Source))
  | 0, source => return .ok (none, source)
  | fuel + 1, source => do
    match cutRecord separator source.isEnded source.pending with
    | some (line, rest) => return .ok (some (String.ofList line), { source with pending := rest })
    | none =>
      if source.isEnded then return .ok (none, { source with pending := [] })
      match ← System.readSome source.index blockSize with
      | .error e => return .error e
      | .ok bytes =>
        readRecord separator fuel { source with
          pending := source.pending ++ (ofBytes bytes).toList
          isEnded := bytes.isEmpty }

namespace Work

/-- How records are set apart now. -/
def separator : Work Separator := do
  let text ← plainText "RS"
  match text.toList with
  | [] => return .paragraph
  | [c] => return .character c
  | _ => return .pattern (← patternOf text)

/-- The next record of a source. -/
def recordFrom (source : Source) : Work (Option String × Source) := do
  let separator ← separator
  match ← perform fun _ => readRecord separator System.turnLimit source with
  | .ok found => return found
  | .error e => fail ("read error (" ++ e.text ++ ")")

/-- The name and the value of an argument that gives a variable a value. -/
def assignment? (text : String) : Option (String × String) :=
  let cs := text.toList
  let n := cs.takeWhile fun c => c.isAlphanum || c == '_'
  match n, cs.drop n.length with
  | first :: _, '=' :: value =>
    if first.isDigit then none
    else some (String.ofList n, String.ofList (unescaped value))
  | _, _ => none

/-- The input, from which all is still to be read. -/
def inputIndex? : Work (Option Nat) := do
  return (← get).process.descriptors.lookup 0

/-- Go on to the next file that arguments name; whether there is one. `fuel` bounds the number
    of arguments. -/
def openNext : Nat → Work Bool
  | 0 => return false
  | fuel + 1 => do
    let s ← get
    let count := (boundedWhole (← plainValue "ARGC").toNumber).toNat
    let begin_ (index : Nat) (name : String) : Work Bool := do
      setCell "FILENAME" (.value (.given name))
      modify fun s => { s with
        main := some ⟨index, [], false⟩, hasFile := true
        globals := s.globals.insert "FNR" (.value (.number 0.0)) }
      return true
    let input (name : String) : Work Bool := do
      match ← inputIndex? with
      | some index => begin_ index name
      | none => return false
    if count ≤ s.argument then
      if s.hasFile then return false
      else input "-"
    else
      let arguments ← table (← tableOf "ARGV")
      let key := Key.number s.argument
      let text ← textOf ((arguments.values.get? key.toText).getD (.text ""))
      modify fun s => { s with argument := s.argument + 1 }
      if text = "" then openNext fuel
      else
        match assignment? text with
        | some (n, value) =>
          setVariable n (.given value)
          openNext fuel
        | none =>
          if text = "-" ∨ text = "/dev/stdin" then input text
          else
            match ← perform fun p => p.openFile text .read with
            | .ok index => begin_ index text
            | .error e => fail ("cannot open " ++ text ++ " (" ++ e.text ++ ")")

/-- The next record of the files that arguments name; `fuel` bounds the number of files. -/
def nextRecord : Nat → Work (Option String)
  | 0 => return none
  | fuel + 1 => do
    let s ← get
    if s.isOver then return none
    match s.main with
    | some source =>
      match ← recordFrom source with
      | (some line, source) =>
        modify fun s => { s with main := some source }
        countUp "NR"
        countUp "FNR"
        return some line
      | (none, _) =>
        modify fun s => { s with main := none }
        nextRecord fuel
    | none =>
      if ← openNext System.turnLimit then nextRecord fuel
      else
        modify fun s => { s with isOver := true }
        return none

/-- The stream of a name, which is the first one from then on. -/
def stream? (name : String) (kind : StreamKind) : Work (Option Stream) := do
  let isMeant (st : Stream) : Bool := st.name == name && st.kind == kind
  match (← get).streams.find? isMeant with
  | some found =>
    modify fun s => { s with streams := found :: s.streams.filter (!isMeant ·) }
    return some found
  | none => return none

/-- Keep a stream as the first one, in the place of what was known by its name. -/
def putStream (st : Stream) : Work Unit :=
  modify fun s =>
    { s with streams := st :: s.streams.filter fun o => !(o.name == st.name && o.kind == st.kind) }

/-- Use an open file as long as the stream that has it. -/
def keep (index : Nat) : Work Unit := do
  modify fun s => { s with process := s.process.keeping index }
  perform fun p => p.hold

/-- Do not use an open file any more. -/
def release (index : Nat) : Work Unit := do
  modify fun s => { s with process := { s.process with kept := s.process.kept.filter (· != index) } }
  perform fun p => p.hold

/-- Write what a stream has kept back. -/
def flushStream (st : Stream) : Work Stream := do
  if st.descriptor = some 1 then perform fun p => p.flush
  if !st.buffer.isEmpty then
    let _ ← perform fun p => System.write p.number st.source.index st.buffer
  return { st with buffer := .empty }

/-- Write all that was kept back. -/
def flushAll : Work Unit := do
  perform fun p => p.flush
  let streams ← (← get).streams.mapM flushStream
  modify fun s => { s with streams }

/-- Start a command with a descriptor that stands for one end of a pipe; the process and the
    other end are returned. -/
def startCommand (call : Caller) (command : String) (descriptor : Nat) : Work (Nat × Nat) := do
  flushAll
  let (child, its, own) ← perform fun p => do
    let (readEnd, writeEnd) ← System.addPipe
    let child ← p.child
    return if descriptor = 0 then (child, readEnd, writeEnd) else (child, writeEnd, readEnd)
  let child := child.withDescriptor descriptor its
  perform fun _ => child.start (call child "sh" ["sh", "-c", command])
  keep own
  return (child.number, own)

/-- The stream of a name for reading; nothing if there is no such file. -/
def readingStream (call : Caller) (name : String) (isCommand : Bool) : Work (Option Stream) := do
  match ← stream? name .reading with
  | some found => return some found
  | none =>
    if isCommand then
      let (child, index) ← startCommand call name 1
      let st : Stream := ⟨name, .reading, ⟨index, [], false⟩, some child, .empty, none⟩
      putStream st
      return some st
    else if name = "-" ∨ name = "/dev/stdin" then
      let s ← get
      match s.process.descriptors.lookup 0 with
      | none => return none
      | some index =>
        let st : Stream := ⟨name, .reading, ⟨index, [], false⟩, none, .empty, some 0⟩
        putStream st
        return some st
    else
      match ← perform fun p => p.openFile name .read with
      | .error _ => return none
      | .ok index =>
        keep index
        let st : Stream := ⟨name, .reading, ⟨index, [], false⟩, none, .empty, none⟩
        putStream st
        return some st

/-- The stream of a name for writing. -/
def writingStream (call : Caller) (name : String) (target : Redirection) : Work Stream := do
  match ← stream? name .writing with
  | some found => return found
  | none =>
    match target with
    | .command =>
      let (child, index) ← startCommand call name 0
      return ⟨name, .writing, ⟨index, [], false⟩, some child, .empty, none⟩
    | _ =>
      if name = "/dev/stdout" then return ⟨name, .writing, ⟨0, [], false⟩, none, .empty, some 1⟩
      else if name = "/dev/stderr" then return ⟨name, .writing, ⟨0, [], false⟩, none, .empty, some 2⟩
      else
        let mode := if target = .append then OpenMode.append else .write
        match ← perform fun p => p.openFile name mode with
        | .error e => fail ("cannot open \"" ++ name ++ "\" for output (" ++ e.text ++ ")")
        | .ok index =>
          keep index
          return ⟨name, .writing, ⟨index, [], false⟩, none, .empty, none⟩

/-- Write a text. -/
def emit (call : Caller) (target : Option (Redirection × String)) (text : String) : Work Unit := do
  match target with
  | none => perform fun p => p.say text
  | some (target, name) =>
    let st ← writingStream call name target
    match st.descriptor with
    | some 1 =>
      putStream st
      perform fun p => p.say text
    | some d =>
      putStream st
      perform fun p => do let _ ← p.write d text
    | none =>
      let st := { st with buffer := st.buffer ++ toBytes text }
      putStream (← if blockSize ≤ st.buffer.size then flushStream st else pure st)

/-- The number that tells how a process has ended. -/
def numberOfEnd : ExitStatus → Nat
  | .exited n => n
  | .signaled n => 256 + n

/-- Close a stream; the number that tells how its command has ended is returned. -/
def closeStream (st : Stream) : Work Nat := do
  let st ← if st.kind = .writing then flushStream st else pure st
  if st.descriptor.isNone then release st.source.index
  match st.child with
  | some child => return numberOfEnd (← perform fun p => p.await child)
  | none => return 0

/-- Close the streams of a name; nothing if there are none. -/
def closeNamed (name : String) : Work (Option Nat) := do
  let found := (← get).streams.filter (·.name == name)
  modify fun s => { s with streams := s.streams.filter (·.name != name) }
  let numbers ← found.mapM closeStream
  return numbers.head?

/-- Close all streams that are written to. -/
def closeAll : Work Unit := do
  let streams := (← get).streams
  for st in streams do
    if st.kind = .writing then
      let _ ← closeStream st

/-- Run a command; the number that tells how it has ended is returned. -/
def runCommand (call : Caller) (command : String) : Work Nat := do
  flushAll
  perform fun p => do
    let child ← p.child
    return numberOfEnd (← p.carryOut child (call child "sh" ["sh", "-c", command]))

end Work

end CompileTree.Shell.Records
