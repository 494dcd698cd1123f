import CompileTree.Shell.Records.Functions
import CompileTree.Shell.Records.Reader

/-! # Running programs that treat records

Expressions are evaluated and statements carried out along their structure. Only calls of
the functions of a program go elsewhere; they are nested to a fixed depth.
-/

namespace CompileTree.Shell.Records

open Utility (Regex Caller)

/-- What an evaluation goes back to. -/
structure Surroundings where
  /-- How native programs are run. -/
  run : Caller
  /-- How functions of the program are called. -/
  call : String → List Cell → Work Value

/-- A place that was found, which can be read and changed. -/
inductive Spot where
  | variable_ (name : String)
  | element (array : Nat) (key : Key)
  | field (number : Nat)

namespace Spot

/-- The value at a place. -/
def read : Spot → Work Value
  | .variable_ n => Work.variable_ n
  | .field n => Work.field n
  | .element k key => do
    let (v, t) := (← Work.table k).get key
    Work.setTable k t
    return v

/-- Let another value be at a place. -/
def write (v : Value) : Spot → Work Unit
  | .variable_ n => Work.setVariable n v
  | .field n => Work.setField n v
  | .element k key => do
    let t ← Work.table k
    Work.setTable k .empty
    Work.setTable k (t.set key v)

end Spot

/-- What an array knows a value by. -/
def keyOf (v : Value) : Work Key := do
  match v with
  | .number x =>
    match whole? x with
    | some n => return .number n
    | none => return .text (← Work.textOf v)
  | v => return .text (← Work.textOf v)

/-- What an array knows several values by. -/
def keyOfAll (vs : List Value) : Work Key := do
  match vs with
  | [v] => keyOf v
  | vs =>
    let texts ← vs.mapM Work.textOf
    return .text ((← Work.plainText "SUBSEP").intercalate texts)

/-- The text of a value that is printed with a format. -/
def formattedText (name : String) (vs : List Value) : Work String := do
  let convert ← Work.plainText "CONVFMT"
  let format ← Work.textOf (vs.headD .unset)
  let spell (v : Value) : String := v.toText convert
  let (text, fault) := formatted spell format (vs.drop 1)
  match fault with
  | none => return text
  | some fault =>
    if name = "printf" then Work.perform fun p => p.say text
    let what := match fault with
      | .noArgument => "not enough arguments passed to " ++ name
      | .noDirective n => "improper conversion(number " ++ toString n ++ ") in " ++ name
    Work.failRunning (what ++ "(\"" ++ format ++ "\")")

/-- The cell that is given to a function for a variable, which stays an array if it is one. -/
def shareVariable (n : String) : Work Cell := do
  match ← Work.cell n with
  | .value .unset =>
    if n = "NF" then return .value (← Work.variable_ n)
    let k := (← get).tables.size
    modify fun s => { s with tables := s.tables.push .empty }
    Work.setCell n (.open_ k)
    return .open_ k
  | .value _ => return .value (← Work.variable_ n)
  | c => return c

/-- What a function of values comes to. -/
def applyValues (e : Surroundings) (f : Function) (vs : List Value) : Work Value := do
  let text (i : Nat) : Work String := Work.textOf (vs.getD i .unset)
  let number (i : Nat) : Float := (vs.getD i .unset).toNumber
  match f with
  | .length =>
    match vs with
    | [] => return .ofNat (← Work.textOf (← Work.record)).length
    | v :: _ => return .ofNat (← Work.textOf v).length
  | .substr => return .text (partOf (← text 0) (number 1) ((vs[2]?).map Value.toNumber))
  | .index => return .ofNat (placeIn (← text 1).toList 1 (← text 0).toList)
  | .sprintf => return .text (← formattedText "sprintf" vs)
  | .toLower => return .text ((← text 0).map Char.toLower)
  | .toUpper => return .text ((← text 0).map Char.toUpper)
  | .sin => return .number (number 0).sin
  | .cos => return .number (number 0).cos
  | .atan2 => return .number (Float.atan2 (number 0) (number 1))
  | .exp => return .number (number 0).exp
  | .log => return .number (number 0).log
  | .sqrt => return .number (number 0).sqrt
  | .int =>
    let x := number 0
    return .number (if x < 0.0 then x.ceil else x.floor)
  | .rand =>
    let (x, random) := nextRandom (← get).random
    modify fun s => { s with random }
    return .number x
  | .srand =>
    let old := (← get).seed
    let new ← match vs with
      | [] => pure (Value.ofInt ((← Work.perform fun _ => Utility.presentTime) / 1000000000))
      | v :: _ => pure v
    let n := (boundedWhole new.toNumber % 4294967296).toNat.toUInt32
    modify fun s => { s with seed := new, random := startRandom n }
    return old
  | .system => return .ofNat (← Work.runCommand e.run (← text 0))
  | .close =>
    match ← Work.closeNamed (← text 0) with
    | some n => return .ofNat n
    | none => return .number (-1.0)
  | .flush =>
    match vs with
    | [] =>
      Work.flushAll
      return .ofNat 0
    | _ =>
      match ← Work.stream? (← text 0) .writing with
      | some st =>
        Work.putStream (← Work.flushStream st)
        return .ofNat 0
      | none =>
        if (← text 0) = "/dev/stdout" then
          Work.perform fun p => p.flush
          return .ofNat 0
        return .number (-1.0)
  | .now => return .ofInt ((← Work.perform fun _ => Utility.presentTime) / 1000000000)
  | .formatTime =>
    let now ← Work.perform fun _ => Utility.presentTime
    let time := match vs[1]? with
      | some v => boundedWhole v.toNumber * 1000000000
      | none => now
    let format ← if vs.isEmpty then pure "%c" else text 0
    return .text ((Utility.Moment.ofTime time).format format)
  | .makeTime =>
    match timeOf? (← text 0) with
    | some n => return .ofInt n
    | none => return .number (-1.0)
  | .split | .match_ | .sub | .gsub => return .unset

/-- Look for a pattern in a text, and note where it is. -/
def seek (r : Regex) (text : String) : Work Value := do
  let (start, length) : Int × Int := match r.search id [] text.toList with
    | some m => (m.before.length + 1, m.matched.length)
    | none => (0, -1)
  Work.setVariable "RSTART" (.ofInt start)
  Work.setVariable "RLENGTH" (.ofInt length)
  return .ofInt start

/-- Give the record or a place the line that was read. -/
def takeLine (line : String) (target : Option Spot) : Work Unit := do
  match target with
  | none => Work.setRecord (.given line)
  | some spot => spot.write (.given line)

mutual

/-- The value of an expression. -/
def evaluate (e : Surroundings) : Expression → Work Value
  | .number x => return .number x
  | .text s => return .text s
  | .pattern r => do
    let text ← Work.textOf (← Work.record)
    return .ofBool (r.search id [] text.toList).isSome
  | .value p => do (← resolve e p).read
  | .assign p none v => do
    let spot ← resolve e p
    let v ← evaluate e v
    spot.write v
    return v
  | .assign p (some operation) v => do
    let spot ← resolve e p
    let y := (← evaluate e v).toNumber
    let x := (← spot.read).toNumber
    let new := Value.number (operation.apply x y)
    spot.write new
    return new
  | .count p up before => do
    let spot ← resolve e p
    let old := (← spot.read).toNumber
    let new := if up then old + 1.0 else old - 1.0
    spot.write (.number new)
    return .number (if before then new else old)
  | .operate operation a b => do
    let x ← evaluate e a
    let y ← evaluate e b
    return .number (operation.apply x.toNumber y.toNumber)
  | .negative a => do return .number (-(← evaluate e a).toNumber)
  | .positive a => do return .number (← evaluate e a).toNumber
  | .not a => do return .ofBool (!(← evaluate e a).holds)
  | .compare c a b => do
    let x ← evaluate e a
    let y ← evaluate e b
    return .ofBool (c.holds (x.order (← Work.plainText "CONVFMT") y))
  | .join a b => do
    let x ← Work.textOf (← evaluate e a)
    let y ← Work.textOf (← evaluate e b)
    return .text (x ++ y)
  | .both a b => do
    if (← evaluate e a).holds then return .ofBool (← evaluate e b).holds
    else return .ofBool false
  | .either a b => do
    if (← evaluate e a).holds then return .ofBool true
    else return .ofBool (← evaluate e b).holds
  | .choose c a b => do
    if (← evaluate e c).holds then evaluate e a else evaluate e b
  | .matches negated subject pattern => do
    let text ← Work.textOf (← evaluate e subject)
    let r ← patternValue e pattern
    return .ofBool ((r.search id [] text.toList).isSome != negated)
  | .hasElement subscripts array => do
    let key ← keyOfAll (← evaluateAll e subscripts)
    let k ← Work.tableOf array
    let t ← Work.table k
    Work.setTable k (t.asked key)
    return .ofBool (t.has key)
  | .apply f arguments =>
    match f, arguments with
    | .length, [.value (.variable_ n)] => do
      match ← Work.cell n with
      | .array k => return .ofNat (← Work.table k).size
      | .open_ k => return .ofNat (← Work.table k).size
      | .value _ => return .ofNat (← Work.textOf (← Work.variable_ n)).length
    | .split, subject :: .value (.variable_ array) :: rest => do
      let text ← Work.textOf (← evaluate e subject)
      let separator ← separatorValue e rest
      let parts := (fieldsOf separator text).map Value.given
      let k ← Work.tableOf array
      Work.setTable k (.ofList parts)
      return .ofNat parts.length
    | .match_, [subject, pattern] => do
      let text ← Work.textOf (← evaluate e subject)
      seek (← patternValue e pattern) text
    | .sub, pattern :: replacement :: target => do
      let r ← patternValue e pattern
      let new ← Work.textOf (← evaluate e replacement)
      substitute r new false (← targetSpot e target)
    | .gsub, pattern :: replacement :: target => do
      let r ← patternValue e pattern
      let new ← Work.textOf (← evaluate e replacement)
      substitute r new true (← targetSpot e target)
    | f, arguments => do applyValues e f (← evaluateAll e arguments)
  | .call name arguments => do
    let cells ← cellsOf e arguments
    e.call name cells
  | .readLine source target => do
    match source with
    | .main =>
      let target ← targetOf e target
      match ← Work.nextRecord System.turnLimit with
      | none => return .ofNat 0
      | some line =>
        takeLine line target
        return .ofNat 1
    | .file name =>
      let target ← targetOf e target
      let name ← Work.textOf (← evaluate e name)
      lineFrom (← Work.readingStream e.run name false) target
    | .command text =>
      let text ← Work.textOf (← evaluate e text)
      let target ← targetOf e target
      lineFrom (← Work.readingStream e.run text true) target
where
  /-- Read a line from a stream. -/
  lineFrom (stream : Option Stream) (target : Option Spot) : Work Value := do
    match stream with
    | none => return .number (-1.0)
    | some st =>
      match ← Work.recordFrom st.source with
      | (some line, source) =>
        Work.putStream { st with source }
        takeLine line target
        return .ofNat 1
      | (none, source) =>
        Work.putStream { st with source }
        return .ofNat 0
  /-- Replace what a pattern matches at a place. -/
  substitute (r : Regex) (replacement : String) (all : Bool) (spot : Spot) : Work Value := do
    let text ← Work.textOf (← spot.read)
    let (new, count) := replaced r replacement all text
    if count ≠ 0 then spot.write (.text new)
    return .ofNat count

/-- The values of expressions. -/
def evaluateAll (e : Surroundings) : List Expression → Work (List Value)
  | [] => return []
  | a :: rest => do
    let v ← evaluate e a
    return v :: (← evaluateAll e rest)

/-- What a function of the program gets for its arguments. -/
def cellsOf (e : Surroundings) : List Expression → Work (List Cell)
  | [] => return []
  | a :: rest => do
    let c ← match a with
      | .value (.variable_ n) => shareVariable n
      | a => Cell.value <$> evaluate e a
    return c :: (← cellsOf e rest)

/-- Find a place. -/
def resolve (e : Surroundings) : Place → Work Spot
  | .variable_ n => return .variable_ n
  | .element array subscripts => do
    let key ← keyOfAll (← evaluateAll e subscripts)
    return .element (← Work.tableOf array) key
  | .field number => do
    let v ← evaluate e number
    return .field (← Work.fieldNumber v)

/-- Find the place that a line is read to. -/
def targetOf (e : Surroundings) : Option Place → Work (Option Spot)
  | none => return none
  | some p => do return some (← resolve e p)

/-- Find the place that is given last; it is the record if none is. -/
def targetSpot (e : Surroundings) : List Expression → Work Spot
  | .value p :: _ => resolve e p
  | _ => return .field 0

/-- The pattern that an expression stands for. -/
def patternValue (e : Surroundings) : Expression → Work Regex
  | .pattern r => return r
  | a => do Work.patternOf (← Work.textOf (← evaluate e a))

/-- How the fields of a text are set apart. -/
def separatorValue (e : Surroundings) : List Expression → Work FieldSeparator
  | .pattern r :: _ => return .pattern r
  | a :: _ => do Work.fieldSeparator (← Work.textOf (← evaluate e a))
  | [] => do Work.fieldSeparator (← Work.plainText "FS")

end

/-- How long one round of a loop takes. -/
def roundTime : Nat := 2000

/-- Do something again and again, as long as a test holds; `fuel` bounds how often. -/
def repeated (test : Work Bool) (body step : Work Unit) : Nat → Work Unit
  | 0 => return
  | fuel + 1 => do
    if ← test then
      Work.perform fun _ => Act.spend roundTime
      match ← ExceptT.lift body.run with
      | .ok () | .error .continue_ =>
        step
        repeated test body step fuel
      | .error .break_ => return
      | .error jump => throw jump

/-- Do something for all of some texts. -/
def eachOf (body : String → Work Unit) : List String → Work Unit
  | [] => return
  | s :: rest => do
    match ← ExceptT.lift (body s).run with
    | .ok () | .error .continue_ => eachOf body rest
    | .error .break_ => return
    | .error jump => throw jump

/-- Evaluate an expression if there is one. -/
def evaluateOptional (e : Surroundings) : Option Expression → Work Value
  | none => return .unset
  | some a => evaluate e a

mutual

/-- Carry out a statement. -/
def carryOut (e : Surroundings) : Statement → Work Unit
  | .evaluate a => do let _ ← evaluate e a
  | .print isFormatted values target => do
    let vs ← evaluateAll e values
    let target ← match target with
      | none => pure none
      | some (kind, name) => do pure (some (kind, ← Work.textOf (← evaluate e name)))
    let text ← if isFormatted then formattedText "printf" vs
      else if vs.isEmpty then
        pure ((← Work.shownText (← Work.record)) ++ (← Work.plainText "ORS"))
      else
        let texts ← vs.mapM Work.shownText
        pure ((← Work.plainText "OFS").intercalate texts ++ (← Work.plainText "ORS"))
    Work.emit e.run target text
  | .block ss => carryOutAll e ss
  | .choose c yes no => do
    if (← evaluate e c).holds then carryOut e yes else carryOut e no
  | .repeatWhile c body => do
    repeated (do return (← evaluate e c).holds) (carryOut e body) (pure ()) System.turnLimit
  | .repeatUntilNot body c => do
    match ← ExceptT.lift (carryOut e body).run with
    | .ok () | .error .continue_ =>
      repeated (do return (← evaluate e c).holds) (carryOut e body) (pure ()) System.turnLimit
    | .error .break_ => return
    | .error jump => throw jump
  | .repeatFor start c step body => do
    let _ ← evaluateOptional e start
    let test : Work Bool := match c with
      | none => return true
      | some c => do return (← evaluate e c).holds
    repeated test (carryOut e body) (do let _ ← evaluateOptional e step) System.turnLimit
  | .forEach n array body => do
    let k ← Work.tableOf array
    let (keys, t) := (← Work.table k).keys
    Work.setTable k t
    let forKey (s : String) : Work Unit := do
      Work.setVariable n (.text s)
      carryOut e body
    eachOf forKey keys
  | .next => throw .next
  | .nextFile => throw .nextFile
  | .exit status => do
    if let some a := status then
      let v ← evaluate e a
      modify fun s => { s with status := (boundedWhole v.toNumber % 256).toNat }
    throw .exit
  | .return_ value => do throw (.return_ (← evaluateOptional e value))
  | .break_ => throw .break_
  | .continue_ => throw .continue_
  | .delete array subscripts => do
    let k ← Work.tableOf array
    if subscripts.isEmpty then Work.setTable k .empty
    else
      let key ← keyOfAll (← evaluateAll e subscripts)
      Work.setTable k ((← Work.table k).delete key)

/-- Carry out statements. -/
def carryOutAll (e : Surroundings) : List Statement → Work Unit
  | [] => return
  | s :: rest => do
    carryOut e s
    carryOutAll e rest

end

/-- How deep functions may call each other. -/
def callDepth : Nat := 1000000

/-- What a program does to call one of its functions; `depth` bounds how deep they call each
    other. -/
def callFunction (functions : Std.HashMap String Definition) (run : Caller) :
    Nat → String → List Cell → Work Value
  | 0, _, _ => Work.failRunning "function call nesting too deep"
  | depth + 1, n, cells => do
    match functions.get? n with
    | none => return .unset
    | some d =>
      let missing := List.replicate (d.parameters.length - cells.length) (Cell.value .unset)
      let before := (← get).locals
      modify fun s => { s with locals := d.parameters.zip (cells ++ missing) }
      let e : Surroundings := ⟨run, callFunction functions run depth⟩
      let result ← ExceptT.lift (carryOut e d.body).run
      modify fun s => { s with locals := before }
      match result with
      | .ok () => return .unset
      | .error (.return_ v) => return v
      | .error jump => throw jump

namespace Rule

/-- Whether a rule applies to the record. -/
def applies (e : Surroundings) (r : Rule) : Work Bool := do
  match r.pattern with
  | .begin_ | .end_ => return false
  | .always => return true
  | .when_ a => return (← evaluate e a).holds
  | .range number first last =>
    let isOn := (← get).ranges.contains number
    let starts ← if isOn then pure true else pure (← evaluate e first).holds
    if !starts then return false
    let ends := (← evaluate e last).holds
    modify fun s =>
      let others := s.ranges.filter (· != number)
      { s with ranges := if ends then others else number :: others }
    return true

/-- Apply rules to the record. -/
def applyAll (e : Surroundings) : List Rule → Work Unit
  | [] => return
  | r :: rest => do
    if ← r.applies e then carryOut e r.action
    applyAll e rest

/-- Apply rules to all records that are left; `fuel` bounds their number. -/
def applyToRecords (e : Surroundings) (rules : List Rule) : Nat → Work Unit
  | 0 => return
  | fuel + 1 => do
    match ← Work.nextRecord System.turnLimit with
    | none => return
    | some line =>
      modify fun s => { s with record := .given line, isSplit := false, isJoined := true }
      match ← ExceptT.lift (applyAll e rules).run with
      | .ok () | .error .next => applyToRecords e rules fuel
      | .error .nextFile =>
        modify fun s => { s with main := none }
        applyToRecords e rules fuel
      | .error jump => throw jump

end Rule

namespace Program

/-- Do something up to its end, or to where the program is to end. -/
def stage (w : Work Unit) : Work Bool := do
  match ← ExceptT.lift w.run with
  | .ok () => return true
  | .error .fatal => throw .fatal
  | .error _ =>
    modify fun s => { s with locals := [] }
    return false

/-- Run a program: what is to be done first, the rules for all records, and what is to be
    done in the end, even if the program was to end before. -/
def run (p : Program) (call : Caller) : Work Unit := do
  let functions := p.functions.foldr (fun (n, d) m => m.insert n d) (∅ : Std.HashMap String Definition)
  let e : Surroundings := ⟨call, callFunction functions call callDepth⟩
  let chosen (which : Pattern → Bool) : List Rule := p.rules.filter fun r => which r.pattern
  let all (rules : List Rule) : Work Unit := rules.forM fun r => carryOut e r.action
  let isFirst (pattern : Pattern) : Bool := match pattern with
    | .begin_ => true
    | _ => false
  let isLast (pattern : Pattern) : Bool := match pattern with
    | .end_ => true
    | _ => false
  let first := chosen isFirst
  let last := chosen isLast
  let main := chosen fun pattern => !isFirst pattern && !isLast pattern
  let mut goesOn ← stage (all first)
  if goesOn && (!main.isEmpty || !last.isEmpty) then
    goesOn ← stage (Rule.applyToRecords e main System.turnLimit)
  let _ ← stage (all last)
  Work.closeAll

end Program

end CompileTree.Shell.Records
