import CompileTree.Shell.Builtin.Variables
import CompileTree.Shell.Extended.Builtin.Arguments
import CompileTree.Shell.Utility.Answers

/-! # Commands that read

Lines of the input are read into variables, or all of them into a list.
-/

namespace CompileTree.Shell.Extended.Builtin

open Text Step

/-- How a text is read: up to which byte, how many characters at most, whether only their
    number counts, and whether backslashes stand for themselves. -/
structure ReadingWay where
  delimiter : Char
  limit : Option Nat
  exact : Bool
  raw : Bool
  /-- The time until which something has to be there that can be read. -/
  deadline : Option Nat

/-- How the reading of a text ended. -/
inductive ReadingEnd where
  /-- The text was complete. -/
  | complete
  /-- Nothing was left. -/
  | short
  /-- It took too long. -/
  | late
  deriving DecidableEq, Repr

/-- The status for how the reading of a text ended. -/
def ReadingEnd.status : ReadingEnd → Nat
  | .complete => 0
  | .short => 1
  | .late => 128 + 14

/-- How many characters a command may read. -/
def readingLimit : Nat := UInt32.size

/-- How long it takes to read one character. -/
def characterTime : Nat := 1000

/-- Wait until something can be read, at most until a deadline; whether it can is returned. -/
def awaitReadable (index : Nat) (deadline : Option Nat) : Step Bool := do
  match deadline, (← getThe System).pipeOf? index with
  | none, _ => return true
  | some time, some n =>
    let ready (s : System) : Bool := s.pipeSize n ≠ 0 || !s.hasWriter n
    perform (Act.waitUntilTime ready time)
    return ready (← getThe System)
  | some time, none =>
    perform (Act.spend characterTime)
    return (← getThe System).clock < time

/-- Read characters one after the other, up to the delimiter; what was read comes in reverse
    with whether each was quoted. -/
def readChars (way : ReadingWay) (index : Nat) : Nat → Nat → Marked → Step (Marked × ReadingEnd)
  | 0, _, before => return (before, .complete)
  | fuel + 1, count, before => do
    if way.limit.any (· ≤ count) then return (before, .complete)
    if !(← awaitReadable index way.deadline) then return (before, .late)
    match ← oneOf with
    | none => return (before, .short)
    | some c =>
      if c = way.delimiter ∧ !way.exact then return (before, .complete)
      else if c = '\\' ∧ !way.raw then
        match ← oneOf with
        | none => return (before, .short)
        | some '\n' => readChars way index fuel count before
        | some d => readChars way index fuel (count + 1) ((d, true) :: before)
      else if c = '\x00' then readChars way index fuel count before
      else readChars way index fuel (count + 1) ((c, false) :: before)
where
  oneOf : Step (Option Char) := do
    match ← perform (System.read index (some 1)) with
    | .ok bytes => return (ofBytes bytes).toList.head?
    | .error _ => return none

/-- A text with its characters marked that a backslash takes the meaning of; whether it is
    complete, and has to be read on. -/
def markedText (way : ReadingWay) : List Char → Marked × Bool × Bool
  | [] => ([], false, false)
  | ['\\'] => if way.raw then ([('\\', false)], false, false) else ([], false, true)
  | c :: cs =>
    if c = way.delimiter then ([], true, false)
    else if c = '\\' ∧ !way.raw then
      match cs with
      | '\n' :: rest =>
        let (line, complete, open_) := markedText way rest
        (line, complete, open_ || rest.isEmpty)
      | d :: rest =>
        let (line, complete, open_) := markedText way rest
        ((d, true) :: line, complete, open_ || (rest.isEmpty && d == way.delimiter))
      | [] => ([], false, true)
    else
      let (line, complete, open_) := markedText way cs
      (if c = '\x00' then line else (c, false) :: line, complete, open_)

/-- Read a text up to its delimiter; `fuel` bounds how often it is read on. -/
def readText (way : ReadingWay) (index : Nat) : Nat → List Char → Step (Marked × Bool)
  | 0, _ => return ([], false)
  | fuel + 1, before => do
    match ← perform (System.readLine index way.delimiter.toNat.toUInt8) with
    | .error _ => return ([], false)
    | .ok bytes =>
      let text := before ++ (ofBytes bytes).toList
      let (line, complete, open_) := markedText way text
      if open_ && !bytes.isEmpty then readText way index fuel text else return (line, complete)

/-- A marked text cut into all its fields. -/
def allFields (separators : List Char) (line : Marked) : List String :=
  (Fields.cut separators ⟨none, false⟩ (line.map fun (c, quoted) => .char c quoted (!quoted))).map
    fun field => String.ofList (field.map (·.1))

/-- The character that ends what is read. -/
def delimiterOf (os : List (Char × String)) : Char :=
  match valueOf? os 'd' with
  | some text => text.toList.headD '\x00'
  | none => '\n'

/-- The open file that is read, by the descriptor that is asked for. -/
def inputOf (os : List (Char × String)) : Step (Except String Nat) := do
  let d? : Option Nat := match valueOf? os 'u' with
    | some text => ((integer? text).filter (0 ≤ ·)).map Int.toNat
    | none => some 0
  match d? with
  | none => return .error ((valueOf? os 'u').getD "" ++ ": invalid file descriptor specification")
  | some d =>
    match (← get).process.descriptors.lookup d, (valueOf? os 'u').isSome with
    | some index, _ => return .ok index
    | none, true => return .error (toString d ++ ": invalid file descriptor: " ++ Files.Error.badDescriptor.text)
    | none, false => return .error ("read error: 0: " ++ Files.Error.badDescriptor.text)

/-- Whether something can be read without waiting. -/
def isReadable (index : Nat) : Step Bool := do
  let s ← getThe System
  match s.pipeOf? index with
  | some n => return s.pipeSize n ≠ 0 || !s.hasWriter n
  | none => return true

/-- Assign what was read. -/
def assignRead (os : List (Char × String)) (names : List String) (exact : Bool) (line : Marked) :
    Step Unit := do
  let separators := (← get).separators
  let whole := String.ofList (line.map (·.1))
  match valueOf? os 'a', names with
  | some name, _ => Values.setList name (allFields separators line)
  | none, [] => Values.setText "REPLY" whole
  | none, names =>
    let values := if exact then [whole]
      else Shell.Builtin.share separators names.length line
    for (name, value) in names.zip (values ++ names.map fun _ => "") do
      match Expansion.parameterOf? name with
      | some (.named base, some subscript) =>
        let key ← Values.keyOf base subscript
        Values.assign base (some key) value false
      | _ => Values.setText name value

/-- Read a line of the input into variables. -/
def read : Action := fun _ arguments =>
  withOptions ['e', 'r', 's'] ['a', 'd', 'i', 'n', 'N', 'p', 't', 'u'] arguments fun os names => do
    let counted := (valueOf? os 'N').or (valueOf? os 'n')
    match counted.filter fun text => (integer? text).all (· < 0) with
    | some text => refuse (text ++ ": invalid number")
    | none =>
      let badTime := (valueOf? os 't').filter fun text =>
        !(text.toList.all fun c => c.isDigit || c == '.')
      if let some text := badTime then
        return ← refuse (text ++ ": invalid timeout specification")
      let isName (text : String) : Bool := match Expansion.parameterOf? text with
        | some (.named _, _) => true
        | _ => false
      match names.find? (!isName ·), ← inputOf os with
      | some name, _ => refuse ("\x60" ++ name ++ "': not a valid identifier")
      | none, .error text => refuse text
      | none, .ok index =>
        if valueOf? os 't' == some "0" then
          return Conditions.statusOf (← isReadable index)
        let limit := (counted.bind integer?).map Int.toNat
        let clock := (← getThe System).clock
        let deadline := ((valueOf? os 't').bind Utility.interval?).map (clock + ·)
        let way : ReadingWay :=
          ⟨delimiterOf os, limit, (valueOf? os 'N').isSome, has os 'r', deadline⟩
        let (line, ending) ←
          if limit.isSome || deadline.isSome then do
            let (line, ending) ← readChars way index readingLimit 0 []
            pure (line.reverse, ending)
          else do
            let (line, complete) ← readText way index System.turnLimit []
            pure (line, if complete then .complete else .short)
        assignRead os names way.exact line
        return ending.status

/-- The texts that end with a delimiter, and the one behind the last delimiter. -/
def delimited (delimiter : Char) : Nat → List Char → List (List Char)
  | 0, _ | _, [] => []
  | fuel + 1, cs =>
    let text := cs.takeWhile (· ≠ delimiter)
    let end_ := (cs.drop text.length).take 1
    (text ++ end_) :: delimited delimiter fuel (cs.drop (text.length + end_.length))

/-- Read lines one after the other, at most so many. -/
def readLines (index : Nat) (delimiter : Char) : Nat → Step (List (List Char))
  | 0 => return []
  | count + 1 => do
    match ← perform (System.readLine index delimiter.toNat.toUInt8) with
    | .error _ => return []
    | .ok bytes =>
      if bytes.isEmpty then return []
      return (ofBytes bytes).toList :: (← readLines index delimiter count)

/-- The number that an option gives, if it is none below zero. -/
def countOf (os : List (Char × String)) (c : Char) (otherwise : Nat) (name : String) :
    Except String Nat :=
  match valueOf? os c with
  | none => .ok otherwise
  | some text =>
    match (integer? text).filter (0 ≤ ·) with
    | some n => .ok n.toNat
    | none => .error (text ++ ": invalid " ++ name)

/-- What is asked of a command that reads many lines. -/
structure ListReading where
  count : Nat
  skipped : Nat
  origin : Nat
  quantum : Nat

/-- What the options ask of a command that reads many lines. -/
def listReading (os : List (Char × String)) : Except String ListReading := do
  let count ← countOf os 'n' 0 "line count"
  let skipped ← countOf os 's' 0 "line count"
  let origin ← countOf os 'O' 0 "array origin"
  let quantum ← countOf os 'c' 5000 "callback quantum"
  return ⟨count, skipped, origin, quantum⟩

/-- Read the lines of the input into a list. -/
def readList : Action := fun e arguments =>
  withOptions ['t'] ['C', 'c', 'd', 'n', 'O', 's', 'u'] arguments fun os rest => do
    let name := rest.headD "MAPFILE"
    match listReading os, ← inputOf os with
    | .error text, _ | _, .error text => refuse text
    | .ok asked, .ok index =>
      if !Script.isName name.toList then
        return ← refuse ("\x60" ++ name ++ "': not a valid identifier")
      let old ← match ← Values.content name with
        | .table _ => return ← refuse (name ++ ": not an indexed array")
        | c => pure c
      let delimiter := delimiterOf os
      let lines ←
        if asked.count = 0 then
          match ← perform (System.read index none) with
          | .ok bytes =>
            let cs := (ofBytes bytes).toList
            pure (delimited delimiter (cs.length + 1) cs)
          | .error _ => pure []
        else readLines index delimiter (asked.skipped + asked.count)
      let cut (line : List Char) : List Char :=
        if has os 't' && line.getLast? == some delimiter then line.dropLast else line
      let clean (line : List Char) : String :=
        String.ofList ((cut line).filter (· ≠ '\x00'))
      let texts := (lines.drop asked.skipped).map clean
      let start := if (valueOf? os 'O').isSome then old.asList else []
      let upTo (count : Nat) : Content :=
        let new := (texts.take count).zipIdx.map fun (t, i) => (asked.origin + i, t)
        let isBehind (e : Nat × String) : Bool := asked.origin + count ≤ e.1
        .list (start.filter (·.1 < asked.origin) ++ new ++ start.filter isBehind)
      match valueOf? os 'C' with
      | some callback =>
        for (text, i) in texts.zipIdx do
          if (i + 1) % (max 1 asked.quantum) = 0 then
            Values.replace name (upTo i)
            let line := (← get).line
            let _ ← e.evaluate .plain none (line - 1)
              (callback ++ " " ++ toString (asked.origin + i) ++ " " ++ Quoting.apostrophes text)
      | none => pure ()
      Values.replace name (upTo texts.length)
      return 0

end CompileTree.Shell.Extended.Builtin
