import CompileTree.Shell.Arithmetic
import CompileTree.Shell.Floating

/-! # Formatted text

Texts with escapes, and formats whose directives show arguments. A format is used
again until no arguments are left; an argument that is missing counts as empty or
as zero.
-/

namespace CompileTree.Shell.Formatted

/-- What is wrong with a format or one of its arguments. -/
inductive Fault where
  | noNumber (argument : String)
  | partlyNumber (argument : String)
  | outOfRange (argument : String)
  /-- The rest of the format is lost. -/
  | badDirective (directive : String)
  | missingCharacter
  deriving DecidableEq, Repr

/-- Whether nothing is written after a fault. -/
def Fault.stops : Fault → Bool
  | .badDirective _ | .missingCharacter => true
  | _ => false

/-- The value of an octal digit. -/
def octal? (c : Char) : Option Nat :=
  if '0' ≤ c ∧ c ≤ '7' then some (c.toNat - 48) else none

/-- The character that a letter behind a backslash stands for. -/
def escapedLetter? : Char → Option Char
  | 'a' => some '\x07'
  | 'b' => some '\x08'
  | 'e' => some '\x1b'
  | 'f' => some '\x0c'
  | 'n' => some '\n'
  | 'r' => some '\r'
  | 't' => some '\t'
  | 'v' => some '\x0b'
  | '\\' => some '\\'
  | _ => none

/-- The character of a code of up to three octal digits, and what follows it. -/
def octalCode (cs : List Char) : Char × List Char :=
  let digits := (cs.take 3).takeWhile fun c => (octal? c).isSome
  let code := digits.foldl (fun n c => 8 * n + (octal? c).getD 0) 0
  (Char.ofNat (code % 256), cs.drop digits.length)

/-- What an escape stands for, given what follows its backslash, and what follows it. -/
def escape (cs : List Char) : Char × List Char :=
  match cs with
  | [] => ('\\', [])
  | c :: rest =>
    if (octal? c).isSome then octalCode cs
    else
      match escapedLetter? c with
      | some d => (d, rest)
      | none => ('\\', cs)

/-- A text with its escapes replaced, and whether all that follows is dropped; `fuel`
    bounds its length. -/
def unescapeWithin : Nat → List Char → List Char × Bool
  | 0, _ => ([], false)
  | _ + 1, [] => ([], false)
  | _ + 1, '\\' :: 'c' :: _ => ([], true)
  | fuel + 1, '\\' :: cs =>
    let cs := match cs with
      | '0' :: d :: rest => if (octal? d).isSome then d :: rest else cs
      | cs => cs
    let (c, rest) := escape cs
    let (text, stopped) := unescapeWithin fuel rest
    (c :: text, stopped)
  | fuel + 1, c :: cs =>
    let (text, stopped) := unescapeWithin fuel cs
    (c :: text, stopped)

/-- A text with its escapes replaced, and whether all that follows is dropped. -/
def unescape (cs : List Char) : List Char × Bool := unescapeWithin (cs.length + 1) cs

/-- The text that words spell, with a line end behind it unless it is declined. -/
def echo (escapes lineEnd : Bool) (words : List String) : String :=
  let text := (" ".intercalate words).toList
  let (cs, stopped) := if escapes then unescape text else (text, false)
  String.ofList (if lineEnd && !stopped then cs ++ ['\n'] else cs)

/-- How a directive shows its argument. -/
structure Directive where
  flags : List Char
  width : Nat
  precision : Option Nat
  letter : Char
  deriving DecidableEq, Repr

namespace Directive

/-- Fill a text up to the width of a directive. -/
def padded (d : Directive) (zeros : Bool) (sign digits : List Char) : List Char :=
  let missing := d.width - (sign.length + digits.length)
  if d.flags.contains '-' then sign ++ digits ++ List.replicate missing ' '
  else if zeros && d.flags.contains '0' then sign ++ List.replicate missing '0' ++ digits
  else List.replicate missing ' ' ++ sign ++ digits

/-- Digits of a number filled up to the precision. -/
def digits (d : Directive) (base n : Nat) : List Char :=
  let cs := Nat.toDigits base n
  match d.precision with
  | none => cs
  | some 0 => if n = 0 then [] else cs
  | some p => List.replicate (p - cs.length) '0' ++ cs

/-- A text as a directive shows it. -/
def showText (d : Directive) (cs : List Char) : List Char :=
  d.padded false [] (d.precision.elim cs cs.take)

/-- A number with a sign as a directive shows it. -/
def showSigned (d : Directive) (n : Int) : List Char :=
  let sign := if n < 0 then ['-'] else if d.flags.contains '+' then ['+']
    else if d.flags.contains ' ' then [' '] else []
  d.padded d.precision.isNone sign (d.digits 10 n.natAbs)

/-- A number without a sign as a directive shows it. -/
def showUnsigned (d : Directive) (n : Nat) : List Char :=
  let marked := d.flags.contains '#'
  match d.letter with
  | 'o' =>
    let cs := d.digits 8 n
    d.padded d.precision.isNone [] (if marked && cs.head? != some '0' then '0' :: cs else cs)
  | 'x' => d.padded d.precision.isNone (if marked && n ≠ 0 then ['0', 'x'] else []) (d.digits 16 n)
  | 'X' =>
    d.padded d.precision.isNone (if marked && n ≠ 0 then ['0', 'X'] else [])
      ((d.digits 16 n).map Char.toUpper)
  | _ => d.padded d.precision.isNone [] (d.digits 10 n)

/-- A floating number as a directive shows it. -/
def showFloating (d : Directive) (f : Floating.Precision) (x : Floating) : List Char :=
  let sign := if x.isNegative then ['-'] else if d.flags.contains '+' then ['+']
    else if d.flags.contains ' ' then [' '] else []
  let cs := x.display f d.letter.toLower (d.flags.contains '#') d.precision
  let (mark, cs) := match cs with
    | '0' :: 'x' :: digits => (['0', 'x'], digits)
    | cs => ([], cs)
  let upper (cs : List Char) : List Char := if d.letter.isUpper then cs.map Char.toUpper else cs
  d.padded x.isFinite (sign ++ upper mark) (upper cs)

end Directive

/-- The number that an argument spells, with what is wrong with it. -/
def number (signed : Bool) (argument : String) : Int × List Fault :=
  match argument.toList with
  | '"' :: c => ((c.headD '\x00').toNat, [])
  | '\'' :: c => ((c.headD '\x00').toNat, [])
  | cs =>
    let cs := cs.dropWhile fun c => c == ' ' || ('\t' ≤ c && c ≤ '\r')
    let (sign, cs) := match cs with
      | '-' :: rest => ((-1 : Int), rest)
      | '+' :: rest => (1, rest)
      | rest => (1, rest)
    if cs.head?.any Char.isDigit then
      let (n, rest) := Arithmetic.natural cs
      let value := sign * n
      let (low, high) : Int × Int :=
        if signed then (Int64.minValue.toInt, Int64.maxValue.toInt)
        else (1 - UInt64.size, UInt64.size - 1)
      let bounded := max low (min high value)
      if !rest.isEmpty then (bounded, [.partlyNumber argument])
      else if bounded ≠ value then (bounded, [.outOfRange argument])
      else (bounded, [])
    else (0, if argument = "" then [] else [.noNumber argument])

/-- The floating number that an argument spells, with what is wrong with it. -/
def floating (f : Floating.Precision) (argument : String) : Floating × List Fault :=
  match argument.toList with
  | '"' :: c => (.finite false (c.headD '\x00').toNat 0, [])
  | '\'' :: c => (.finite false (c.headD '\x00').toNat 0, [])
  | cs =>
    match Floating.read f cs with
    | none => (.finite false 0 0, if argument = "" then [] else [.noNumber argument])
    | some r =>
      (r.value, if !r.rest.isEmpty then [.partlyNumber argument]
        else if r.outOfRange then [.outOfRange argument] else [])

/-- What a format has written so far, in reverse. -/
structure Written where
  text : List Char
  arguments : List String
  /-- Whether any argument was asked for. -/
  asked : Bool
  /-- What is wrong, with the number of characters written before. -/
  faults : List (Nat × Fault)
  stopped : Bool

namespace Written

/-- Take the next argument. -/
def take (w : Written) : String × Written :=
  (w.arguments.headD "", { w with arguments := w.arguments.drop 1, asked := true })

/-- Write more text. -/
def put (w : Written) (cs : List Char) : Written := { w with text := cs.reverse ++ w.text }

/-- Note what is wrong. -/
def note (w : Written) (fs : List Fault) : Written :=
  { w with faults := w.faults ++ fs.map (w.text.length, ·) }

/-- Show the next argument. -/
def use (f : Floating.Precision) (w : Written) (d : Directive) : Option Written :=
  let (argument, after) := w.take
  match d.letter with
  | 's' => some (after.put (d.showText argument.toList))
  | 'b' =>
    let (cs, stopped) := unescape argument.toList
    some { after.put (d.showText cs) with stopped }
  | 'c' => some (after.put (d.showText [argument.toList.headD '\x00']))
  | 'd' | 'i' =>
    let (n, faults) := number true argument
    some ((after.note faults).put (d.showSigned n))
  | 'o' | 'u' | 'x' | 'X' =>
    let (n, faults) := number false argument
    some ((after.note faults).put (d.showUnsigned (n % UInt64.size).toNat))
  | 'a' | 'A' | 'e' | 'E' | 'f' | 'F' | 'g' | 'G' =>
    let (x, faults) := floating f argument
    some ((after.note faults).put (d.showFloating f x))
  | _ => none

end Written

/-- A number in a directive, which may be an argument, and what follows it. -/
def measure (w : Written) (cs : List Char) : Option Int × Written × List Char :=
  match cs with
  | '*' :: rest =>
    let (argument, w) := w.take
    let (n, faults) := number true argument
    (some n, w.note faults, rest)
  | cs =>
    let digits := cs.takeWhile Char.isDigit
    let n := if digits.isEmpty then none else some (Int.ofNat (Nat.ofDigitChars 10 digits 0))
    (n, w, cs.drop digits.length)

/-- The directive behind a percent sign, and what follows it. -/
def directive (w : Written) (cs : List Char) : Option Directive × Written × List Char :=
  let flags := cs.takeWhile (· ∈ ['#', '-', '+', ' ', '0'])
  let (width, w, rest) := measure w (cs.drop flags.length)
  let flags := if width.any (· < 0) then '-' :: flags else flags
  let (precision, w, rest) := match rest with
    | '.' :: rest =>
      let (n, w, rest) := measure w rest
      (some ((n.getD 0).toNat), w, rest)
    | rest => (none, w, rest)
  match rest with
  | [] => (none, w, [])
  | letter :: rest => (some ⟨flags, (width.getD 0).natAbs, precision, letter⟩, w, rest)

/-- A format written once; `fuel` bounds its length. -/
def once (f : Floating.Precision) : Nat → Written → List Char → Written
  | 0, w, _ => w
  | fuel + 1, w, cs =>
    if w.stopped then w
    else
      match cs with
      | [] => w
      | '\\' :: rest =>
        let (c, rest) := escape rest
        once f fuel (w.put [c]) rest
      | '%' :: '%' :: rest => once f fuel (w.put ['%']) rest
      | '%' :: cs =>
        match directive w cs with
        | (none, w, _) => { w.note [.missingCharacter] with stopped := true }
        | (some d, w, rest) =>
          match w.use f d with
          | some w => once f fuel w rest
          | none =>
            let spelled := '%' :: cs.take (cs.length - rest.length)
            { w.note [.badDirective (String.ofList spelled)] with stopped := true }
      | c :: rest => once f fuel (w.put [c]) rest

/-- A format written until no arguments are left; `fuel` bounds how often. -/
def repeated (f : Floating.Precision) (format : List Char) : Nat → Written → Written
  | 0, w => w
  | fuel + 1, w =>
    let after := once f (format.length + 1) { w with asked := false } format
    if after.asked && !after.arguments.isEmpty && !after.stopped then repeated f format fuel after
    else after

/-- What a format writes with its arguments, and what is wrong, with the number of
    characters written before. -/
def print (f : Floating.Precision) (format : String) (arguments : List String) :
    String × List (Nat × Fault) :=
  let w := repeated f format.toList (arguments.length + 1) ⟨[], arguments, false, [], false⟩
  (String.ofList w.text.reverse, w.faults)

example : print .double "%s-%d|%5s|%-5s|%05d\\n" ["a", "0x10", "r", "l", "42"] =
    ("a-16|    r|l    |00042\n", []) := by decide

end CompileTree.Shell.Formatted
