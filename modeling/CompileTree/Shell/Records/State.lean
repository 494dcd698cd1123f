import CompileTree.Shell.Records.Patterns
import CompileTree.Shell.Records.Syntax
import CompileTree.Shell.Records.Table
import CompileTree.Shell.Utility.Calls

/-! # What a program that treats records has

Variables, arrays, the record with its fields, and the streams that are open. Fields
are found when they are asked for, and the record is put together again when it is
asked for after one of its fields was changed.
-/

namespace CompileTree.Shell.Records

open Utility (Regex)
open Files Text

/-- What a variable stands for. -/
inductive Cell where
  | value (v : Value)
  | array (number : Nat)
  /-- Nothing yet, or an array if it is used as one. -/
  | open_ (number : Nat)

/-- A file or a command that is read. -/
structure Source where
  /-- The index of the open file. -/
  index : Nat
  /-- What was read and is not taken yet. -/
  pending : List Char
  isEnded : Bool

/-- What is done with a stream. -/
inductive StreamKind where
  | reading
  | writing
  deriving DecidableEq, Repr

/-- A stream that is known by a name. -/
structure Stream where
  name : String
  kind : StreamKind
  source : Source
  /-- The process of a command. -/
  child : Option Nat
  /-- What is to be written. -/
  buffer : ByteArray
  /-- The descriptor that the stream stands for, which is not closed with it. -/
  descriptor : Option Nat

/-- How records are set apart. -/
inductive Separator where
  | character (c : Char)
  /-- Empty lines. -/
  | paragraph
  | pattern (r : Regex)

/-- How fields are set apart. -/
inductive FieldSeparator where
  | blanks
  | character (c : Char)
  /-- Every character is a field. -/
  | nothing
  | pattern (r : Regex)

/-- What a program has. -/
structure State where
  process : Process
  /-- The name of the program in messages. -/
  name : String
  globals : Std.HashMap String Cell
  locals : List (String × Cell)
  tables : Array Table
  record : Value
  fields : Array Value
  /-- Whether the fields of the record were found. -/
  isSplit : Bool
  /-- Whether the record is the text of its fields. -/
  isJoined : Bool
  main : Option Source
  /-- The argument that is looked at next. -/
  argument : Nat
  /-- Whether an argument named a file. -/
  hasFile : Bool
  isOver : Bool
  /-- The streams, the one that was used last first. -/
  streams : List Stream
  patterns : Std.HashMap String Regex
  /-- The rules from one record to another that are under way. -/
  ranges : List Nat
  status : Nat
  random : Array UInt32
  seed : Value

/-- Where a program goes on. -/
inductive Jump where
  | next
  | nextFile
  | exit
  | break_
  | continue_
  | return_ (v : Value)
  /-- The program ends at once. -/
  | fatal

/-- What a program does. -/
abbrev Work := ExceptT Jump (StateT State Act)

namespace Work

/-- Do something as the process of the program. -/
def perform {α : Type} (act : Process → Act α) : Work α := do
  let p := (← get).process
  ExceptT.lift (StateT.lift (act p))

/-- Tell something, and end. -/
def fail {α : Type} (text : String) : Work α := do
  let name := (← get).name
  perform fun p => p.complain (name ++ ": " ++ text)
  modify fun s => { s with status := 2 }
  throw .fatal

/-- What a name stands for. -/
def cell (n : String) : Work Cell := do
  let s ← get
  match s.locals.lookup n with
  | some c => return c
  | none => return (s.globals.get? n).getD (.value .unset)

/-- Let a name stand for something. -/
def setCell (n : String) (c : Cell) : Work Unit :=
  modify fun s =>
    if (s.locals.lookup n).isSome then
      { s with locals := s.locals.map fun l => if l.1 == n then (n, c) else l }
    else { s with globals := s.globals.insert n c }

/-- The value of a variable as it was set. -/
def plainValue (n : String) : Work Value := do
  match ← cell n with
  | .value v => return v
  | _ => return .unset

/-- The text of a variable that is no number with a fraction. -/
def plainText (n : String) : Work String := return (← plainValue n).toText "%.6g"

/-- A value as a text. -/
def textOf (v : Value) : Work String := do
  match v with
  | .number x =>
    match whole? x with
    | some n => return toString n
    | none => return numberText (← plainText "CONVFMT") x
  | v => return v.toText ""

/-- A value as a text that is written. -/
def shownText (v : Value) : Work String := do
  match v with
  | .number x =>
    match whole? x with
    | some n => return toString n
    | none => return numberText (← plainText "OFMT") x
  | v => return v.toText ""

/-- Tell what went wrong, and where. -/
def failRunning {α : Type} (text : String) : Work α := do
  let file ← plainText "FILENAME"
  let inFile ← plainText "FNR"
  let all ← plainText "NR"
  fail ("run time error: " ++ text ++ "\n\tFILENAME=\"" ++ file ++ "\" FNR=" ++ inFile ++
    " NR=" ++ all)

/-- The array that a name stands for. -/
def tableOf (n : String) : Work Nat := do
  match ← cell n with
  | .array k => return k
  | .open_ k =>
    setCell n (.array k)
    return k
  | .value _ =>
    let k := (← get).tables.size
    modify fun s => { s with tables := s.tables.push .empty }
    setCell n (.array k)
    return k

/-- An array by its number. -/
def table (k : Nat) : Work Table := return ((← get).tables[k]?).getD .empty

/-- Change an array. -/
def setTable (k : Nat) (t : Table) : Work Unit :=
  modify fun s => { s with tables := s.tables.setIfInBounds k t }

/-- The pattern that a text spells. -/
def patternOf (text : String) : Work Regex := do
  match (← get).patterns.get? text with
  | some r => return r
  | none =>
    match PatternSpelling.read text.toList with
    | .ok r =>
      modify fun s => { s with patterns := s.patterns.insert text r }
      return r
    | .error e => failRunning ("regular expression compile failed (" ++ e ++ ")\n" ++ text)

/-- How fields are set apart by a text. -/
def fieldSeparator (text : String) : Work FieldSeparator := do
  match text.toList with
  | [] => return .nothing
  | [' '] => return .blanks
  | [c] => return .character c
  | _ => return .pattern (← patternOf text)

end Work

/-- The words of a text between blanks. -/
def wordsOf (cs : List Char) : List (List Char) :=
  (cs.splitBy fun a b => isBlank a == isBlank b).filter fun w => w.head?.any (!isBlank ·)
where
  /-- Whether a character stands between words. -/
  isBlank (c : Char) : Bool := c == ' ' || c == '\t' || c == '\n'

/-- The parts of a text between the matches of a pattern. -/
def partsBetween (r : Regex) (cs : List Char) : List (List Char) :=
  let ms := (r.occurrences id (cs.length + 2) false [] cs).filter fun m => !m.matched.isEmpty
  let step (state : List (List Char) × Nat) (m : Regex.Match) : List (List Char) × Nat :=
    (m.before.drop state.2 :: state.1, m.before.length + m.matched.length)
  let (parts, start) := ms.foldl step ([], 0)
  (cs.drop start :: parts).reverse

/-- The fields of a text. -/
def fieldsOf (separator : FieldSeparator) (text : String) : List String :=
  let cs := text.toList
  if cs.isEmpty then []
  else
    let parts := match separator with
      | .blanks => wordsOf cs
      | .character c => cs.splitOn c
      | .nothing => cs.map fun c => [c]
      | .pattern r => partsBetween r cs
    parts.map String.ofList

namespace Work

/-- Find the fields of the record. -/
def splitRecord : Work Unit := do
  let s ← get
  if !s.isSplit then
    let separator ← fieldSeparator (← plainText "FS")
    let text ← textOf s.record
    let fields := ((fieldsOf separator text).map Value.given).toArray
    modify fun s => { s with
      fields, isSplit := true
      globals := s.globals.insert "NF" (.value (.ofNat fields.size)) }

/-- Let the record be another one. -/
def setRecord (v : Value) : Work Unit := do
  let text ← textOf v
  modify fun s => { s with record := .given text, isSplit := false, isJoined := true }

/-- The record. -/
def record : Work Value := do
  let s ← get
  if s.isJoined then return s.record
  let texts ← s.fields.toList.mapM textOf
  let text := (← plainText "OFS").intercalate texts
  modify fun s => { s with record := .given text, isJoined := true }
  return .given text

/-- The number of a field. -/
def fieldNumber (v : Value) : Work Nat := do
  let n := boundedWhole v.toNumber
  if n < 0 then failRunning ("negative field index $" ++ toString n)
  else return n.toNat

/-- A field, or the record for zero. -/
def field (n : Nat) : Work Value := do
  if n = 0 then record
  else
    splitRecord
    return ((← get).fields[n - 1]?).getD .unset

/-- Have so many fields. -/
def setFieldCount (n : Nat) : Work Unit := do
  splitRecord
  modify fun s =>
    let missing := Array.replicate (n - s.fields.size) (Value.given "")
    { s with
      fields := s.fields.extract 0 n ++ missing
      isJoined := false
      globals := s.globals.insert "NF" (.value (.ofNat n)) }

/-- Give a field a value, or the record for zero. -/
def setField (n : Nat) (v : Value) : Work Unit := do
  if n = 0 then setRecord v
  else
    splitRecord
    if (← get).fields.size < n then setFieldCount n
    modify fun s => { s with fields := s.fields.setIfInBounds (n - 1) v, isJoined := false }

/-- The value of a variable. -/
def variable_ (n : String) : Work Value := do
  if n = "NF" then splitRecord
  match ← cell n with
  | .value v => return v
  | .open_ _ => return .unset
  | .array _ => failRunning ("scalar reference to array " ++ n)

/-- Give a variable a value. -/
def setVariable (n : String) (v : Value) : Work Unit := do
  let isLocal := ((← get).locals.lookup n).isSome
  if isLocal then setCell n (.value v)
  else if n = "NF" then setFieldCount (boundedWhole v.toNumber).toNat
  else
    if n = "FS" then splitRecord
    setCell n (.value v)

/-- Count a variable up by one. -/
def countUp (n : String) : Work Unit := do
  let x := (← plainValue n).toNumber
  modify fun s => { s with globals := s.globals.insert n (.value (.number (x + 1.0))) }

end Work

end CompileTree.Shell.Records
