import CompileTree.Shell.Formatted

/-! # Values in records

A value is a number or a text. A text that was given to a program and looks like a
number is compared as one.
-/

namespace CompileTree.Shell.Records

/-- A value. -/
inductive Value where
  /-- Nothing was given to the variable yet; it counts as zero and as the empty text. -/
  | unset
  | number (x : Float)
  | text (s : String)
  /-- A text that comes from outside. -/
  | given (s : String)

/-- The number that is as exact as numbers of the program are. -/
def numberOf : Floating → Float
  | .finite negative n e =>
    let x := Float.scaleB (Float.ofNat n) e
    if negative then -x else x
  | .infinite negative => if negative then -1.0 / 0.0 else 1.0 / 0.0
  | .undefined _ => 0.0 / 0.0

/-- A number in its parts. One that is undefined has a minus sign. -/
def partsOf (x : Float) : Floating :=
  let bits := x.toBits.toNat
  let negative := bits / Nat.pow 2 63 == 1
  let exponent := bits / Nat.pow 2 52 % 2048
  let digits := bits % Nat.pow 2 52
  if exponent = 2047 then if digits = 0 then .infinite negative else .undefined true
  else if exponent = 0 then .finite negative digits (-1074)
  else .finite negative (digits + Nat.pow 2 52) (exponent - 1075)

/-- A number without what stands behind its point, if it is finite. -/
def wholePart? (x : Float) : Option Int :=
  match partsOf x with
  | .finite negative n e =>
    let size := if 0 ≤ e then n * Nat.pow 2 e.toNat else n / Nat.pow 2 (-e).toNat
    some (if negative then -(size : Int) else size)
  | _ => none

/-- The first power of two that is too large for whole numbers of 64 bits. -/
def wholeLimit : Nat := Nat.pow 2 64

/-- The whole number that a number is, unless that is too large. -/
def whole? (x : Float) : Option Int := do
  let n ← wholePart? x
  if x != x.floor then none
  else if n = wholeLimit then some (n - 1)
  else if n < wholeLimit ∧ -(wholeLimit / 2 : Int) ≤ n then some n
  else none

/-- The nearest whole number that has 64 bits. -/
def boundedWhole (x : Float) : Int :=
  match wholePart? x with
  | some n => max (1 - (wholeLimit / 2 : Int)) (min (wholeLimit - 1 : Int) n)
  | none =>
    match partsOf x with
    | .infinite false => (wholeLimit - 1 : Int)
    | .infinite true => 1 - (wholeLimit / 2 : Int)
    | _ => -(wholeLimit / 2 : Int)

/-- A number as a whole number that fits into 32 bits. -/
def smallWhole (x : Float) : Int := max (-2147483648) (min 2147483647 (boundedWhole x))

/-- A blank in texts that look like numbers. -/
def isNumberBlank (c : Char) : Bool := c == ' ' || ('\t' ≤ c && c ≤ '\r')

/-- The number that a text looks like as a whole. -/
def likeness? (s : String) : Option Float :=
  let cs := s.toList.dropWhile isNumberBlank
  let cs := (cs.reverse.dropWhile isNumberBlank).reverse
  match cs.head?, cs.getLast? with
  | some first, some last =>
    if (first.isDigit || first ∈ ['+', '-', '.']) && (last.isDigit || last == '.') then
      match Floating.read .double cs with
      | some ⟨x, _, []⟩ => some (numberOf x)
      | _ => none
    else none
  | _, _ => none

/-- The number at the start of a text. -/
def leadingNumber (s : String) : Float :=
  match Floating.read .double s.toList with
  | some r => numberOf r.value
  | none => 0.0

/-- What is wrong with a format. -/
inductive FormatFault where
  | noArgument
  /-- The directive of a number is none. -/
  | noDirective (number : Nat)
  deriving DecidableEq, Repr

namespace Value

/-- A value as a number. -/
def toNumber : Value → Float
  | .unset => 0.0
  | .number x => x
  | .text s | .given s => leadingNumber s

/-- The number as which a value is compared. -/
def compared? : Value → Option Float
  | .unset => some 0.0
  | .number x => some x
  | .text _ => none
  | .given s => likeness? s

/-- Whether a value counts as true. -/
def holds : Value → Bool
  | .unset => false
  | .number x => x != 0.0
  | .text s => s != ""
  | .given s =>
    match likeness? s with
    | some x => x != 0.0
    | none => s != ""

/-- The value of whether something is true. -/
def ofBool (b : Bool) : Value := .number (if b then 1.0 else 0.0)

/-- The value of a whole number. -/
def ofInt (n : Int) : Value := .number (Float.ofInt n)

/-- The value of a count. -/
def ofNat (n : Nat) : Value := .number (Float.ofNat n)

end Value

/-- A directive of a format behind its percent sign, with the arguments that are left, and
    what follows. -/
def directiveOf (arguments : List Value) (cs : List Char) :
    Option (Formatted.Directive × List Value × List Char) :=
  let measure (arguments : List Value) (cs : List Char) : Option Int × List Value × List Char :=
    match cs with
    | '*' :: rest =>
      (some (boundedWhole ((arguments.headD .unset).toNumber)), arguments.drop 1, rest)
    | cs =>
      let digits := cs.takeWhile Char.isDigit
      let n := if digits.isEmpty then none else some (Int.ofNat (Nat.ofDigitChars 10 digits 0))
      (n, arguments, cs.drop digits.length)
  let flags := cs.takeWhile (· ∈ ['#', '-', '+', ' ', '0'])
  let (width, arguments, rest) := measure arguments (cs.drop flags.length)
  let flags := if width.any (· < 0) then '-' :: flags else flags
  let (precision, arguments, rest) := match rest with
    | '.' :: rest =>
      let (n, arguments, rest) := measure arguments rest
      (some (n.getD 0).toNat, arguments, rest)
    | rest => (none, arguments, rest)
  match rest.dropWhile (· ∈ ['h', 'l', 'L']) with
  | letter :: rest => some (⟨flags, (width.getD 0).natAbs, precision, letter⟩, arguments, rest)
  | [] => none

/-- A value as a directive shows it. `spelled` is the value as a text. -/
def shownBy? (d : Formatted.Directive) (v : Value) (spelled : String) : Option (List Char) :=
  match d.letter with
  | 'd' | 'i' => some (d.showSigned (boundedWhole v.toNumber))
  | 'o' | 'x' | 'X' | 'u' =>
    some (d.showUnsigned (boundedWhole v.toNumber % (wholeLimit : Int)).toNat)
  | 'e' | 'E' | 'f' | 'F' | 'g' | 'G' | 'a' | 'A' =>
    some (d.showFloating .double (partsOf v.toNumber))
  | 's' => some (d.showText spelled.toList)
  | 'c' =>
    let code? := match v with
      | .number x => some x
      | .given s => likeness? s
      | _ => none
    let c := match code? with
      | some x => Char.ofNat (boundedWhole x % 256).toNat
      | none => spelled.toList.headD '\x00'
    some (d.showText [c])
  | _ => none

/-- What a format writes with values, and what is wrong with it; `fuel` bounds its length,
    and `number` counts its directives. -/
def formattedWithin (spell : Value → String) : Nat → Nat → List Value → List Char →
    List Char × Option FormatFault
  | 0, _, _, _ => ([], none)
  | fuel + 1, number, arguments, cs =>
    let plain := cs.takeWhile (· ≠ '%')
    match cs.drop plain.length with
    | [] => (plain, none)
    | '%' :: '%' :: rest =>
      let (text, fault) := formattedWithin spell fuel number arguments rest
      (plain ++ '%' :: text, fault)
    | _ :: rest =>
      if arguments.isEmpty then (plain, some .noArgument)
      else
        match directiveOf arguments rest with
        | none => (plain, some (.noDirective number))
        | some (d, arguments, rest) =>
          match arguments with
          | [] => (plain, some .noArgument)
          | v :: arguments =>
            match shownBy? d v (spell v) with
            | none => (plain, some (.noDirective number))
            | some shown =>
              let (text, fault) := formattedWithin spell fuel (number + 1) arguments rest
              (plain ++ shown ++ text, fault)

/-- What a format writes with values, and what is wrong with it. -/
def formatted (spell : Value → String) (format : String) (arguments : List Value) :
    String × Option FormatFault :=
  let cs := format.toList
  let (text, fault) := formattedWithin spell (cs.length + 1) 1 arguments cs
  (String.ofList text, fault)

/-- A number as a text. A format shows it if it is not whole. -/
def numberText (format : String) (x : Float) : String :=
  match whole? x with
  | some n => toString n
  | none => (formatted (fun _ => "") format [.number x]).1

/-- A value as a text. -/
def Value.toText (format : String) : Value → String
  | .unset => ""
  | .number x => numberText format x
  | .text s | .given s => s

/-- How two values stand to each other: as numbers if both are such, otherwise as texts. -/
def Value.order (format : String) (a b : Value) : Ordering :=
  match a.compared?, b.compared? with
  | some x, some y => if x < y then .lt else if y < x then .gt else .eq
  | _, _ => compare (a.toText format) (b.toText format)

end CompileTree.Shell.Records
