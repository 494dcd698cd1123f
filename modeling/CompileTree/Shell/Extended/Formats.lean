import CompileTree.Shell.Extended.Escapes
import CompileTree.Shell.Extended.Quoting
import CompileTree.Shell.Utility.Dates

/-! # Formats of the extended shell

A format is written with its arguments, and again until none are left. Besides texts and
numbers it shows words in a form that can be read again, and times.
-/

namespace CompileTree.Shell.Extended.Formats

open Formatted (Directive)
open Utility (Moment)

/-- What is told of an argument or a directive, and whether the command has failed by it. -/
structure Fault where
  text : String
  isFailure : Bool
  /-- How many characters were written before. -/
  place : Nat
  deriving DecidableEq, Repr

/-- What a format has written so far, in reverse. -/
structure Progress where
  text : List Char
  arguments : List String
  /-- Whether any argument was asked for. -/
  asked : Bool
  faults : List Fault
  /-- The variables that are given how many characters were written, with their values. -/
  counts : List (String × Nat)
  stopped : Bool

/-- The times in seconds that a format can show: the present, and the start of the shell. -/
structure Times where
  now : Int
  start : Int

namespace Progress

/-- Write more text. -/
def put (w : Progress) (cs : List Char) : Progress := { w with text := cs.reverse ++ w.text }

/-- Take the next argument, if there is one. -/
def take (w : Progress) : Option String × Progress :=
  (w.arguments.head?, { w with arguments := w.arguments.drop 1, asked := true })

/-- Give up the rest of the format. -/
def fail (w : Progress) (text : String) : Progress :=
  { w with faults := w.faults ++ [⟨text, true, w.text.length⟩], stopped := true }

/-- Note what is wrong with a number. -/
def note (w : Progress) (faults : List Formatted.Fault) : Progress :=
  let fault (text : String) (isFailure : Bool) : Fault := ⟨text, isFailure, w.text.length⟩
  let shown : Formatted.Fault → Fault
    | .outOfRange a => fault ("warning: " ++ a ++ ": Numerical result out of range") false
    | .noNumber a | .partlyNumber a =>
      let kind := match a.toList with
        | '0' :: 'x' :: _ => "hex number"
        | '0' :: c :: _ => if c.isDigit then "octal number" else "number"
        | _ => "number"
      fault (a ++ ": invalid " ++ kind) true
    | .badDirective d => fault d true
    | .missingCharacter => fault "" true
  { w with faults := w.faults ++ faults.map shown }

/-- Show the next argument. -/
def use (w : Progress) (d : Directive) : Option Progress :=
  let (argument?, after) := w.take
  let argument := argument?.getD ""
  match d.letter with
  | 's' => some (after.put (d.showText argument.toList))
  | 'b' =>
    let (cs, stopped) := Escapes.expand .argument argument.toList
    some { after.put (d.showText cs) with stopped }
  | 'q' => some (after.put (d.showText (Quoting.word argument).toList))
  | 'Q' =>
    let cs := d.precision.elim argument.toList argument.toList.take
    let whole := { d with precision := none }
    some (after.put (whole.showText (Quoting.word (String.ofList cs)).toList))
  | 'n' => some { after with counts := after.counts ++ [(argument, after.text.length)] }
  | 'c' => some (after.put (d.showText [argument.toList.headD '\x00']))
  | 'd' | 'i' =>
    let (n, faults) := Formatted.number true argument
    some ((after.note faults).put (d.showSigned n))
  | 'o' | 'u' | 'x' | 'X' =>
    let (n, faults) := Formatted.number false argument
    some ((after.note faults).put (d.showUnsigned (n % UInt64.size).toNat))
  | 'a' | 'A' | 'e' | 'E' | 'f' | 'F' | 'g' | 'G' =>
    let (x, faults) := Formatted.floating .extended argument
    some ((after.note faults).put (d.showFloating .extended x))
  | _ => none

/-- Show a time that the next argument tells. -/
def useTime (w : Progress) (times : Times) (d : Directive) (format : String) : Progress :=
  let (argument?, after) := w.take
  let (time, faults) := match argument? with
    | none => (times.now, [])
    | some a =>
      let (n, faults) := Formatted.number true a
      (if n = -1 then times.now else if n = -2 then times.start else n, faults)
  let shown := (Moment.ofTime (time * 1000000000)).format (if format = "" then "%X" else format)
  (after.note faults).put (d.showText shown.toList)

end Progress

/-- A number in a directive, which may be an argument, and what follows it. -/
def measure (w : Progress) (cs : List Char) : Option Int × Progress × List Char :=
  match cs with
  | '*' :: rest =>
    let (argument?, w) := w.take
    let (n, faults) := Formatted.number true (argument?.getD "0")
    (some n, w.note faults, rest)
  | cs =>
    let digits := cs.takeWhile Char.isDigit
    let n := if digits.isEmpty then none else some (Int.ofNat (Nat.ofDigitChars 10 digits 0))
    (n, w, cs.drop digits.length)

/-- A directive behind its percent sign, written with the next argument, and what follows it. -/
def directive (times : Times) (w : Progress) (cs : List Char) : Progress × List Char :=
  let flags := cs.takeWhile (· ∈ ['#', '\'', '-', '+', ' ', '0'])
  let (width, w, rest) := measure w (cs.drop flags.length)
  let flags := if width.any (· < 0) then '-' :: flags else flags
  let (precision, w, rest) := match rest with
    | '.' :: rest =>
      let (n, w, rest) := measure w rest
      let n := n.getD 0
      (if n < 0 then none else some n.toNat, w, rest)
    | rest => (none, w, rest)
  let d (letter : Char) : Directive := ⟨flags, (width.getD 0).natAbs, precision, letter⟩
  match rest.dropWhile (· ∈ ['h', 'j', 'l', 'L', 't', 'z']) with
  | [] => (w.fail "\x60%': missing format character", [])
  | '(' :: more =>
    let format := more.takeWhile (· ≠ ')')
    match more.drop format.length with
    | ')' :: 'T' :: rest => (w.useTime times (d 'T') (String.ofList format), rest)
    | ')' :: c :: rest =>
      (w.fail ("\x60" ++ String.singleton c ++ "': invalid time format specification"), rest)
    | _ => (w.fail "\x60%': missing format character", [])
  | letter :: rest =>
    match w.use (d letter) with
    | some w => (w, rest)
    | none => (w.fail ("\x60" ++ String.singleton letter ++ "': invalid format character"), rest)

/-- A format written once; `fuel` bounds its length. -/
def once (times : Times) : Nat → Progress → List Char → Progress
  | 0, w, _ => w
  | fuel + 1, w, cs =>
    if w.stopped then w
    else
      match cs with
      | [] => w
      | '\\' :: rest =>
        match Escapes.escape .format rest with
        | some (text, rest) => once times fuel (w.put text) rest
        | none => w
      | '%' :: '%' :: rest => once times fuel (w.put ['%']) rest
      | '%' :: cs =>
        let (w, rest) := directive times w cs
        once times fuel w rest
      | c :: rest => once times fuel (w.put [c]) rest

/-- A format written until no arguments are left; `fuel` bounds how often. -/
def repeated (times : Times) (format : List Char) : Nat → Progress → Progress
  | 0, w => w
  | fuel + 1, w =>
    let after := once times (format.length + 1) { w with asked := false } format
    if after.asked && !after.arguments.isEmpty && !after.stopped then repeated times format fuel after
    else after

/-- What a format makes of its arguments. -/
structure Outcome where
  text : String
  faults : List Fault
  /-- The variables that are given how many characters were written, with their values. -/
  counts : List (String × Nat)
  deriving DecidableEq, Repr

/-- What a format makes of its arguments. -/
def print (times : Times) (format : String) (arguments : List String) : Outcome :=
  let w := repeated times format.toList (arguments.length + 1) ⟨[], arguments, false, [], [], false⟩
  ⟨String.ofList w.text.reverse, w.faults, w.counts⟩

example : print ⟨0, 0⟩ "%s=%03d %q\\n" ["a", "7", "x y"] = ⟨"a=007 x\\ y\n", [], []⟩ := by
  decide

end CompileTree.Shell.Extended.Formats
