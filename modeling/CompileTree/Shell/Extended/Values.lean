import CompileTree.Shell.Extended.Calculation
import CompileTree.Shell.Extended.State

/-! # Values of variables

How variables are found and changed. Some variables tell of the shell itself and have
another value whenever they are looked at; some change the shell when they are assigned.
-/

namespace CompileTree.Shell.Extended.Values

open Files Text Step
open Calculation (Key Target)

/-- The number that comes by chance after another one. -/
def following (n : Nat) : Nat :=
  let n := if n = 0 then 123459876 else n
  let high := n / 127773
  let low := n % 127773
  let t : Int := 16807 * low - 2836 * high
  (if t < 0 then t + 0x7fffffff else t).toNat

/-- What is shown of a number that came by chance. -/
def shownRandom (n : Nat) : Nat := ((n / 65536) ^^^ (n % 65536)) % 32768

/-- A list of texts. -/
def listOf (texts : List String) : Content := .list (texts.zipIdx.map fun (t, i) => (i, t))

/-- What a variable holds that tells of the shell, at a time in nanoseconds. -/
def telling? (s : State) (clock : Nat) (name : String) : Option Content :=
  let number (n : Nat) : Option Content := some (.text (toString n))
  match name with
  | "LINENO" => number s.line
  | "BASHPID" => number s.process.number
  | "BASH_SUBSHELL" => number s.subshells
  | "BASH_ARGV0" => some (.text s.name)
  | "SECONDS" => number (s.started.2 + (clock - s.started.1) / 1000000000)
  | "EPOCHSECONDS" => number (clock / 1000000000)
  | "EPOCHREALTIME" =>
    let micros := toString (clock / 1000 % 1000000)
    some (.text (toString (clock / 1000000000) ++ "." ++ "".pushn '0' (6 - micros.length) ++ micros))
  | "PIPESTATUS" => some (listOf (s.statuses.map toString))
  | "FUNCNAME" =>
    if s.frames.length < 2 && s.frames.all (·.name == "main") then some .nothing
    else some (listOf (s.frames.map (·.name)))
  | "BASH_SOURCE" => some (listOf (s.frames.map (·.source)))
  | "BASH_LINENO" => some (listOf (s.frames.map (toString ·.line)))
  | "DIRSTACK" => some (listOf (s.directory :: s.stack))
  | "BASH_COMMAND" => some (.text s.current.get)
  | "_" => some (.text s.lastWord)
  | "SHELLOPTS" =>
    some (.text (":".intercalate ((optionNames.map (·.1)).filter s.has)))
  | "BASHOPTS" => some (.text (":".intercalate (extraNames.filter s.hasExtra)))
  | "GROUPS" => some (listOf ["0"])
  | "RANDOM" => number (shownRandom (following s.random))
  | _ => none

/-- The name of the variable that a name stands for; `fuel` bounds how many names stand for
    each other. -/
def resolve (s : State) : Nat → String → String
  | 0, name => name
  | fuel + 1, name =>
    match s.find? name with
    | some v =>
      match v.reference, v.content with
      | true, .text target => resolve s fuel target
      | _, _ => name
    | none => name

/-- How many names may stand for each other. -/
def referenceLimit : Nat := 8

/-- The variable that a name stands for. -/
def lookup (name : String) : Step (Option Variable) := do
  let s ← get
  let name := resolve s referenceLimit name
  match telling? s (← getThe System).clock name with
  | some content =>
    if name = "RANDOM" then set { s with random := following s.random }
    match content with
    | .nothing => return none
    | content => return some (Variable.plain name content)
  | none => return s.find? name

/-- What a name stands for. -/
def content (name : String) : Step Content := do
  return ((← lookup name).map (·.content)).getD .nothing

/-- The value of a variable that is no array. -/
def value? (name : String) : Step (Option String) := return (← content name).value?

/-- The place in a list that a number stands for; one below zero counts from the end. -/
def placeIn (c : Content) (n : Int64) : Option Nat :=
  let i := if n < 0 then n.toInt + c.nextIndex else n.toInt
  if i < 0 then none else some i.toNat

/-- The element of a content under a key. -/
def element? (c : Content) (key : Key) : Option (Option String) :=
  match c, key with
  | .table elements, .text k => some (elements.lookup k)
  | .table elements, .index n => some (elements.lookup (toString n.toInt))
  | c, .index n => (placeIn c n).map fun i => c.asList.lookup i
  | _, .text _ => some none

/-- A content with another element, or another value for its name. -/
def changed? (c : Content) (key : Option Key) (value : String) : Option Content :=
  match c, key with
  | .list elements, none => some (.list (Content.insertAt 0 value elements))
  | .table elements, none => some (.table (Content.insertUnder "0" value elements))
  | .table elements, some (.text k) => some (.table (Content.insertUnder k value elements))
  | .table elements, some (.index n) =>
    some (.table (Content.insertUnder (toString n.toInt) value elements))
  | _, none => some (.text value)
  | c, some (.index n) => (placeIn c n).map fun i => .list (Content.insertAt i value c.asList)
  | _, some (.text _) => none

/-- How a key is spelled. -/
def spelled (name : String) : Option Key → String
  | none => name
  | some (.index n) => name ++ "[" ++ toString n.toInt ++ "]"
  | some (.text k) => name ++ "[" ++ k ++ "]"

/-- Change what the assignment to a variable changes in the shell. -/
def noticed (name value : String) (clock : Nat) (s : State) : State :=
  let n := (Script.Reader.digitsValue (value.toList.takeWhile Char.isDigit))
  match name with
  | "OPTIND" => { s with optionOffset := 0 }
  | "PATH" => { s with places := [] }
  | "SECONDS" => { s with started := (clock, n) }
  | "RANDOM" => { s with random := n % UInt32.size }
  | "BASH_ARGV0" => { s with name := value }
  | _ => s

/-- Refuse to change a variable that is fixed. -/
def refuseFixed (v : Variable) : Step Unit := do
  if v.fixed then complainPlainly (v.name ++ ": readonly variable")
  if v.fixed then throw (.discard 1)

/-- Give a variable or an element a value as it stands. -/
def store (name : String) (key : Option Key) (value : String) : Step Unit := do
  let s ← get
  let name := resolve s referenceLimit name
  let v := (s.find? name).getD (Variable.plain name .nothing)
  refuseFixed v
  let value := v.casing.elim value (·.keep value)
  match changed? v.content key value with
  | some content =>
    let clock := (← getThe System).clock
    modify fun s => noticed name value clock
      (s.put { v with content, bare := false, exported := v.exported || s.has "allexport" })
  | none => discard (spelled name key ++ ": bad array subscript")

/-- How calculations use variables. -/
def access : Calculation.Access Step where
  isTable name := do
    match ← content name with
    | .table _ => return true
    | _ => return false
  read t spelling := do
    let c ← content t.name
    let v := match t.key with
      | none => some c.value?
      | some key => element? c key
    match v with
    | some (some v) => return v
    | some none =>
      if (← get).has "nounset" then fatal (t.name ++ ": unbound variable") 1 else return ""
    | none =>
      complain (spelling ++ ": bad array subscript")
      return ""
  assign t value := store t.name t.key value
  fail _ expression message token :=
    discard (expression ++ ": " ++ message ++ " (error token is \"" ++ token ++ "\")")

/-- The value of an expression. -/
def calculate (text : String) : Step Int64 :=
  Calculation.value access Calculation.depthLimit text.toList

/-- The key that the text of a subscript is for a variable. -/
def keyOf (name text : String) : Step Key := do
  match ← content name with
  | .table _ => return .text text
  | _ => return .index (← calculate text)

/-- What is stored where a value is given: for numbers that of an expression, and behind the
    old one if asked. -/
def given (name : String) (key : Option Key) (value : String) (appends : Bool) : Step String := do
  let s ← get
  let name := resolve s referenceLimit name
  let v := (s.find? name).getD (Variable.plain name .nothing)
  let old := match key with
    | none => v.content.value?
    | some key => (element? v.content key).join
  if v.integer then
    let n ← calculate value
    if appends then return toString ((← calculate (old.getD "")) + n).toInt
    else return toString n.toInt
  else return if appends then old.getD "" ++ value else value

/-- Give a variable or an element a value, which is put behind the old one if asked. -/
def assign (name : String) (key : Option Key) (value : String) (appends : Bool) : Step Unit := do
  store name key (← given name key value appends)

/-- Give a variable a value. -/
def setText (name value : String) : Step Unit := assign name none value false

/-- Give a variable a value whatever it was; it is no array then. -/
def replace (name : String) (content : Content) : Step Unit := do
  let s ← get
  let name := resolve s referenceLimit name
  let v := (s.find? name).getD (Variable.plain name .nothing)
  refuseFixed v
  modify fun s =>
    s.put { v with content, bare := false, exported := v.exported || s.has "allexport" }

/-- Give a variable a list of values. -/
def setList (name : String) (texts : List String) : Step Unit := replace name (listOf texts)

end CompileTree.Shell.Extended.Values
