import CompileTree.Shell.Formatted
import CompileTree.Shell.Utility.Showing

/-! # Utilities for numbers

Numbers that follow each other, the prime factors of numbers, and numbers with the
letters that multiply them.
-/

namespace CompileTree.Shell.Utility

open Files

/-- A number with decimals: its digits as a whole number, how many of them are decimals,
    and how many characters spell it without an exponent. -/
structure Decimal where
  digits : Int
  places : Nat
  width : Int

namespace Decimal

/-- The number that a text spells. -/
def ofText? (text : String) : Option Decimal :=
  let cs := text.toList.dropWhile fun c => c == ' ' || ('\t' ≤ c && c ≤ '\r')
  let cs := match cs with
    | '+' :: cs => cs
    | cs => cs
  let (sign, ds) := match cs with
    | '-' :: ds => ((-1 : Int), ds)
    | ds => (1, ds)
  let (whole, fraction, rest) := Floating.digitsAround Char.isDigit ds
  let (exponent, rest) := Floating.exponentOf 'e' rest
  if (whole.isEmpty && fraction.isEmpty) || !rest.isEmpty || 1000 < exponent.natAbs then none
  else
    let hasPoint := ds.contains '.'
    let spelled := (if sign < 0 then 1 else 0) + whole.length + fraction.length +
      (if hasPoint then 1 else 0)
    let pointed : Int :=
      if !hasPoint then 0 else if fraction.isEmpty then -1 else if whole.isEmpty then 1 else 0
    let undone : Int := if exponent < 0 && (!hasPoint || fraction.isEmpty) then 1 else 0
    let width : Int := spelled + pointed + undone + exponent.natAbs
    let n : Int := sign * (Nat.ofDigitChars 10 (whole ++ fraction) 0 : Nat)
    let places : Int := fraction.length - exponent
    some ⟨n * Nat.pow 10 (-places).toNat, places.toNat, width⟩

/-- The digits of a number with more decimals. -/
def scaled (d : Decimal) (places : Nat) : Int := d.digits * Nat.pow 10 (places - d.places)

/-- How a number is written, with zeros before it up to a width. -/
def write (digits : Int) (places width : Nat) : String :=
  let cs := Floating.pointed false places (Nat.toDigits 10 digits.natAbs)
  let sign := if digits < 0 then ['-'] else []
  String.ofList (sign ++ List.replicate (width - sign.length - cs.length) '0' ++ cs)

/-- The floating number next to a number. -/
def toFloating (digits : Int) (places : Nat) : Floating :=
  (Floating.nearest .extended (digits < 0) digits.natAbs (Nat.pow 10 places)).1

end Decimal

/-- A format with one directive for a floating number. -/
structure NumberFormat where
  before : String
  directive : Formatted.Directive
  after : String

/-- Put two percent signs together. -/
def plainFormat : List Char → List Char
  | '%' :: '%' :: cs => '%' :: plainFormat cs
  | c :: cs => c :: plainFormat cs
  | [] => []

/-- How many characters stand before the first directive of a format. -/
def directiveStart : List Char → Option Nat
  | '%' :: '%' :: cs => (directiveStart cs).map (· + 2)
  | '%' :: _ => some 0
  | _ :: cs => (directiveStart cs).map (· + 1)
  | [] => none

/-- The format that a text spells, or what is wrong with it. -/
def NumberFormat.ofText (text : String) (letters : List Char) : Except String NumberFormat :=
  let cs := text.toList
  match directiveStart cs with
  | none => .error ("format " ++ shown text ++ " has no % directive")
  | some start =>
    let plain := String.ofList ∘ plainFormat
    match Formatted.directive ⟨[], [], false, [], false⟩ (cs.drop (start + 1)) with
    | (none, _, _) => .error ("format " ++ shown text ++ " ends in %")
    | (some d, _, rest) =>
      if d.letter ∉ letters then
        .error ("format " ++ shown text ++ " has unknown %" ++ String.singleton d.letter ++
          " directive")
      else if (directiveStart rest).isSome then
        .error ("format " ++ shown text ++ " has too many % directives")
      else .ok ⟨plain (cs.take start), d, plain rest⟩

/-- A number as a format shows it. -/
def NumberFormat.write (f : NumberFormat) (x : Floating) : String :=
  f.before ++ String.ofList (f.directive.showFloating .extended x) ++ f.after

/-- Numbers that follow each other. -/
structure Progression where
  start : Int
  step : Int
  /-- Whether there is no last number. -/
  endless : Bool
  stop : Int
  places : Nat
  separator : String
  shownPlaces : Nat
  width : Nat
  format : Option NumberFormat

/-- Whether a number lies behind the last one. -/
def Progression.isOver (r : Progression) (n : Int) : Bool :=
  !r.endless && (if 0 < r.step then r.stop < n else n < r.stop)

/-- A number of the progression as it is written. -/
def Progression.text (r : Progression) (n : Int) : String :=
  match r.format with
  | some f => f.write (Decimal.toFloating n r.places)
  | none =>
    Decimal.write (n / Nat.pow 10 (r.places - r.shownPlaces)) r.shownPlaces r.width

/-- Write the numbers from one on; `fuel` bounds how many there are. -/
def Progression.write (r : Progression) (p : Process) : Nat → Int → Act Unit
  | 0, _ => return
  | fuel + 1, n => do
    if r.isOver n || (← isLost p) then return
    p.say ((if n = r.start then "" else r.separator) ++ r.text n)
    r.write p fuel (n + r.step)

/-- Write numbers that follow each other. -/
def seq : Program := fun p arguments =>
  let isNumber (a : String) : Bool := match a.toList with
    | '-' :: c :: _ => c.isDigit || c == '.'
    | _ => false
  let guarded := arguments.map fun a => if isNumber a then "\x00" ++ a else a
  withOptions ⟨['w'], ['s', 'f'],
      [("--separator", 's'), ("--equal-width", 'w'), ("--format", 'f')], true⟩ 1
    (fun p name g => do
      let operands := g.operands.map fun a =>
        if a.startsWith "\x00" then (a.drop 1).copy else a
      let isEndless (a : String) : Bool := a.toLower ∈ ["inf", "infinity", "+inf"]
      let last := operands.getLastD ""
      let endless := isEndless last
      let given := operands.zipIdx.map fun (a, i) =>
        (a, if endless && i + 1 = operands.length then some ⟨0, 0, 0⟩ else Decimal.ofText? a)
      if given.isEmpty then return ← misuse p name "missing operand" 1
      if let some (extra, _) := given[3]? then
        return ← misuse p name ("extra operand " ++ marked extra) 1
      let format ← match g.valueOf? 'f' with
        | none => pure none
        | some text =>
          match NumberFormat.ofText text ['a', 'A', 'e', 'E', 'f', 'F', 'g', 'G'] with
          | .ok f => pure (some f)
          | .error text =>
            complain p name text
            return 1
      if let some (a, _) := given.find? (·.2.isNone) then
        return ← misuse p name ("invalid floating point argument: " ++ marked a) 1
      if format.isSome && g.has 'w' then
        return ← misuse p name
          "format string may not be specified when printing equal width strings" 1
      let one : Decimal := ⟨1, 0, 1⟩
      match given.filterMap (·.2) with
      | [] => return 0
      | [last] => write p g format endless one one last
      | [first, last] => write p g format endless first one last
      | first :: step :: last :: _ =>
        if step.digits = 0 then
          misuse p name ("invalid Zero increment value: " ++ marked ((given.map (·.1))[1]?.getD "")) 1
        else write p g format endless first step last) p guarded
where
  write (p : Process) (g : Given) (format : Option NumberFormat) (endless : Bool)
      (first step last : Decimal) : Act Nat := do
    let shownPlaces := max first.places step.places
    let places := max shownPlaces last.places
    let widthOf (d : Decimal) : Int :=
      d.width + shownPlaces - d.places + (if d.places = 0 ∧ shownPlaces ≠ 0 then 1 else 0) -
        (if d.places ≠ 0 ∧ shownPlaces = 0 then 1 else 0)
    let width := if g.has 'w' then (max (widthOf first) (widthOf last)).toNat else 0
    let r : Progression := {
      start := first.scaled places, step := step.scaled places, endless, stop := last.scaled places
      places, separator := (g.valueOf? 's').getD "\n", shownPlaces, width, format }
    if !r.isOver r.start then
      r.write p System.turnLimit r.start
      p.say "\n"
    return 0

/-- The least factor of a number from a candidate on; the number itself if there is none
    below its root. -/
def factorFrom (n : Nat) : Nat → Nat → Nat
  | 0, _ => n
  | fuel + 1, candidate =>
    if n < candidate * candidate then n
    else if n % candidate = 0 then candidate
    else factorFrom n fuel (if candidate = 2 then 3 else candidate + 2)

/-- The prime factors of a number, none of which is below a candidate. -/
def primeFactors : Nat → Nat → Nat → List Nat
  | 0, _, _ => []
  | fuel + 1, candidate, n =>
    if n < 2 then []
    else
      let p := factorFrom n n.sqrt.succ candidate
      p :: primeFactors fuel p (n / p)

/-- Write the prime factors of numbers. -/
def factor : Program :=
  withOptions ⟨['h'], [], [("--exponents", 'h')], false⟩ 1 fun p name g => do
    let words ← if g.operands.isEmpty then
        match ← p.read 0 none with
        | .ok text => pure (((text.toList.splitOnP fun c => c ∈ [' ', '\t', '\n']).filter
            (!·.isEmpty)).map String.ofList)
        | .error e =>
          complain p name ("error reading input: " ++ e.text)
          pure []
      else pure g.operands
    let fine ← eachFile words fun word => do
      let digits := (word.toList.dropWhile fun c => c == ' ').dropWhile fun c => c == '+'
      match number? (String.ofList digits) with
      | none =>
        complain p name (marked word ++ " is not a valid positive integer")
        return false
      | some n =>
        let all := primeFactors (n.log2 + 1) 2 n
        let one (run : List Nat) : String :=
          toString (run.headD 0) ++ (if run.length = 1 then "" else "^" ++ toString run.length)
        let texts := if g.has 'h' then (all.splitBy (· == ·)).map one else all.map toString
        p.say (toString n ++ ":" ++ String.join (texts.map (" " ++ ·)) ++ "\n")
        return true
    return statusOf fine

/-- The letters that multiply numbers, in order. -/
def multiplierLetters : List Char := ['K', 'M', 'G', 'T', 'P', 'E', 'Z', 'Y', 'R', 'Q']

/-- How numbers with letters are read or written. -/
inductive UnitScale where
  | none
  | auto
  | si
  | iec
  /-- With an `i` behind the letter. -/
  | iecMarked
  deriving DecidableEq

namespace UnitScale

/-- The scale of a name. -/
def ofName? : String → Option UnitScale
  | "none" => some .none
  | "auto" => some .auto
  | "si" => some .si
  | "iec" => some .iec
  | "iec-i" => some .iecMarked
  | _ => Option.none

/-- What a letter multiplies by. -/
def base : UnitScale → Nat
  | .iec | .iecMarked => 1024
  | _ => 1000

end UnitScale

/-- How numbers are rounded. -/
inductive Rounding where
  | up
  | down
  | away
  | toward
  | nearest
  deriving DecidableEq

/-- A quotient rounded to a whole number. -/
def Rounding.apply (r : Rounding) (n : Int) (d : Nat) : Int :=
  let floor := n / (d : Int)
  let ceiling := -((-n) / (d : Int))
  match r with
  | .up => ceiling
  | .down => floor
  | .away => if n < 0 then floor else ceiling
  | .toward => Int.tdiv n d
  | .nearest => if n < 0 then -((2 * -n + d) / (2 * d)) else (2 * n + d) / (2 * d)

/-- A quotient of whole numbers. -/
structure Quotient where
  num : Int
  den : Nat

/-- How numbers are converted. -/
structure Conversion where
  source : UnitScale
  target : UnitScale
  sourceUnit : Nat
  targetUnit : Nat
  suffix : String
  rounding : Rounding
  padding : Int
  precision : Option Nat
  grouping : Bool

/-- The digits of a number in groups of three. -/
def grouped : List Char → List Char
  | [] => []
  | d :: ds => if ds.length % 3 = 0 && !ds.isEmpty then d :: ',' :: grouped ds else d :: grouped ds

namespace Conversion

/-- The number that a text spells with its letter, and what is left; else what is wrong. -/
def read (c : Conversion) (text : String) : Except String (Quotient × Nat) := do
  let cs := text.toList.dropWhile (· == ' ')
  let (sign, ds) := match cs with
    | '-' :: ds => ((-1 : Int), ds)
    | ds => (1, ds)
  let (whole, fraction, rest) := Floating.digitsAround Char.isDigit ds
  if whole.isEmpty && fraction.isEmpty then throw ("invalid number: " ++ marked text)
  let n : Int := sign * (Nat.ofDigitChars 10 (whole ++ fraction) 0 : Nat)
  let q : Quotient := ⟨n, Nat.pow 10 fraction.length⟩
  match rest with
  | [] =>
    if c.source = .iecMarked then throw ("missing 'i' suffix in input: " ++ marked text ++ " (e.g Ki/Mi/Gi)")
    return (q, fraction.length)
  | letter :: after =>
    let power := multiplierLetters.findIdx? (· == (if letter = 'k' then 'K' else letter))
    match power with
    | none => throw ("invalid suffix in input: " ++ marked text)
    | some power =>
      if c.source = .none then
        throw ("rejecting suffix in input: " ++ marked text ++ " (consider using --from)")
      let binary := c.source = .auto && after.head? == some 'i'
      let after := if binary || (c.source = .iecMarked && after.head? == some 'i') then after.drop 1
        else after
      if c.source = .iecMarked && after.length = (rest.drop 1).length then
        throw ("missing 'i' suffix in input: " ++ marked text ++ " (e.g Ki/Mi/Gi)")
      if !after.isEmpty then
        throw ("invalid suffix in input " ++ marked text ++ ": " ++ marked (String.ofList after))
      let base := if binary then 1024 else c.source.base
      return (⟨q.num * Nat.pow base (power + 1), q.den⟩, 0)

/-- How often a number is divided by the base until it is below that; `fuel` bounds it. -/
def power (base : Nat) : Nat → Quotient → Nat
  | 0, _ => 0
  | fuel + 1, q =>
    if q.num.natAbs < base * q.den then 0 else power base fuel ⟨q.num, q.den * base⟩ + 1

/-- A number as it is written, with how many decimals it was read. -/
def write (c : Conversion) (q : Quotient) (places : Nat) : String :=
  let q : Quotient := ⟨q.num * c.sourceUnit, q.den * c.targetUnit⟩
  let signed (n : Int) (places : Nat) (group : Bool) : List Char :=
    let digits := Nat.toDigits 10 n.natAbs
    let cs := Floating.pointed false places digits
    let whole := cs.takeWhile (· ≠ '.')
    let cs := if group then grouped whole ++ cs.drop whole.length else cs
    if n < 0 then '-' :: cs else cs
  let body :=
    if c.target = .none then
      let places := c.precision.getD places
      signed (c.rounding.apply (q.num * Nat.pow 10 places) q.den) places c.grouping
    else
      let base := c.target.base
      let power := power base 10 q
      let den := q.den * Nat.pow base power
      let digits := match c.precision with
        | some n => min (power * 3) n
        | none => if q.num.natAbs < 10 * den then 1 else 0
      let rounded := c.rounding.apply (q.num * Nat.pow 10 digits) den
      let overflows := base * Nat.pow 10 digits ≤ rounded.natAbs
      let (n, d) := if overflows then (rounded, Nat.pow 10 digits * base) else (rounded, Nat.pow 10 digits)
      let power := if overflows then power + 1 else power
      let decimals := match c.precision with
        | some n => n
        | none => if n ≠ 0 ∧ n.natAbs < 10 * d ∧ 0 < power then 1 else 0
      let shown := Rounding.nearest.apply (n * Nat.pow 10 decimals) d
      let letter := if power = 0 then [] else
        (multiplierLetters[power - 1]?).toList ++ (if c.target = .iecMarked then ['i'] else [])
      signed shown decimals false ++ letter
  String.ofList body ++ c.suffix

/-- Fill a text up to the padding. -/
def pad (c : Conversion) (text : String) : String :=
  let missing := c.padding.natAbs - text.length
  if 0 ≤ c.padding then "".pushn ' ' missing ++ text else text.pushn ' ' missing

/-- Convert a number. -/
def convert (c : Conversion) (text : String) : Except String String := do
  let given := (text.toList.dropWhile fun c => c == ' ' || c == '\t')
  let given := String.ofList given
  let bare := if c.suffix ≠ "" && given.endsWith c.suffix then (given.dropEnd c.suffix.length).copy
    else given
  let (q, places) ← c.read bare
  return c.pad (c.write q places)

end Conversion

/-- Convert the numbers in fields of a line. -/
def convertFields (c : Conversion) (separator : Option Char) (wanted : Nat → Bool)
    (line : List Char) : Except String String := do
  let fields := match separator with
    | some s => line.splitOn s
    | none =>
      let isGap (c : Char) : Bool := c == ' ' || c == '\t'
      (line.splitBy fun a b => isGap a || !isGap b).filter (!·.isEmpty)
  let parts ← (fields.zipIdx 1).mapM fun (field, i) => do
    let text := String.ofList field
    if !wanted i then return text
    let gap := String.ofList (field.takeWhile fun c => c == ' ' || c == '\t')
    let c := if separator.isNone && c.padding = 0 && (1 < gap.length || (i = 1 && gap ≠ "")) then
        { c with padding := text.length }
      else c
    let lead := if separator.isNone && 1 < i then " " else ""
    let c := if lead ≠ "" && c.padding ≠ 0 then { c with padding := c.padding - 1 } else c
    return lead ++ (← c.convert text)
  return (separator.elim "" String.singleton).intercalate parts

/-- Write numbers with the letters that multiply them, or without. -/
def numfmt : Program := fun p arguments =>
  let isNumber (a : String) : Bool := match a.toList with
    | '-' :: c :: _ => c.isDigit || c == '.'
    | _ => false
  let guarded := arguments.map fun a => if isNumber a then "\x00" ++ a else a
  withOptions ⟨['z'], ['d', 'φ', 'τ', 'υ', 'ψ', 'σ', 'ρ', 'π', 'δ', 'ι', 'α'],
      [("--from", 'φ'), ("--to", 'τ'), ("--from-unit", 'υ'), ("--to-unit", 'ψ'), ("--suffix", 'σ'),
        ("--round", 'ρ'), ("--padding", 'π'), ("--field", 'δ'), ("--delimiter", 'd'),
        ("--format", 'α'), ("--invalid", 'ι'), ("--grouping", 'γ'), ("--header?", 'η'),
        ("--zero-terminated", 'z')], false⟩ 1
    (fun p name g => do
      let scale (letter : Char) (option : String) : Act (Except Nat UnitScale) := do
        match g.valueOf? letter with
        | none => return .ok .none
        | some text =>
          match UnitScale.ofName? text with
          | some s => return .ok s
          | none =>
            complain p name ("invalid argument " ++ shown text ++ " for " ++ shown option)
            return .error 1
      let .ok source ← scale 'φ' "--from" | return 1
      let .ok target ← scale 'τ' "--to" | return 1
      let rounding := match g.valueOf? 'ρ' with
        | some "up" => Rounding.up
        | some "down" => .down
        | some "towards-zero" => .toward
        | some "nearest" => .nearest
        | _ => .away
      let format := (g.valueOf? 'α').bind fun text =>
        (NumberFormat.ofText (text.replace "'" "") ['f']).toOption
      if let some text := g.valueOf? 'α' then
        if format.isNone then
          complain p name ("invalid format " ++ marked text ++ ", directive must be %[0]['][-][N][.][N]f")
          return 1
      let signedNumber? (text : String) : Option Int := match text.toList with
        | '-' :: ds => (number? (String.ofList ds)).map fun n => -Int.ofNat n
        | _ => (number? text).map Int.ofNat
      let padding := ((g.valueOf? 'π').bind signedNumber?).getD 0
      let padding := match format with
        | some f => if f.directive.flags.contains '-' then -(f.directive.width : Int) else f.directive.width
        | none => padding
      let unit (letter : Char) : Nat := ((g.valueOf? letter).bind scaled?).getD 1
      let c : Conversion := {
        source, target, sourceUnit := unit 'υ', targetUnit := unit 'ψ'
        suffix := (g.valueOf? 'σ').getD "", rounding, padding
        precision := format.bind (·.directive.precision)
        grouping := g.has 'γ' || ((g.valueOf? 'α').any fun f => f.contains '\'') }
      let separator := (g.valueOf? 'd').bind (·.toList.head?)
      let wanted : Nat → Bool := match g.valueOf? 'δ' with
        | none => (· == 1)
        | some "-" => fun _ => true
        | some text => fun i => (text.toList.splitOn ',').any fun part =>
          match (part.splitOn '-').map fun s => number? (String.ofList s) with
          | [some n] => n == i
          | [some a, some b] => a ≤ i && i ≤ b
          | [some a, none] => a ≤ i
          | [none, some b] => i ≤ b
          | _ => false
      let lineEnd := lineEndFor (g.has 'z')
      let line (cs : List Char) : Act Bool := do
        match convertFields c separator wanted cs with
        | .ok text =>
          let text := format.elim text fun f => f.before ++ text ++ f.after
          sayLine p text.toList lineEnd
          return true
        | .error text =>
          let how := (g.valueOf? 'ι').getD "abort"
          if how ≠ "ignore" then complain p name text
          if how ≠ "abort" then sayLine p cs lineEnd
          return how = "warn" || how = "ignore"
      let operands := g.operands.map fun a => if a.startsWith "\x00" then (a.drop 1).copy else a
      if operands.isEmpty then
        let skip := match g.valueOf? 'η' with
          | some "" => 1
          | some n => (number? n).getD 1
          | none => 0
        match p.descriptors.lookup 0 with
        | none => return 0
        | some index =>
          let all ← eachLine index lineEnd (fun (k, status) cs _ => do
            if k < skip then
              sayLine p cs lineEnd
              return (true, (k + 1, status))
            let ok ← line cs
            return (ok, (k + 1, if ok then status else 2))) (0, 0)
          return ((all.toOption).map (·.2)).getD 1
      for a in operands do
        if !(← line a.toList) then return 2
      return 0) p guarded

end CompileTree.Shell.Utility
