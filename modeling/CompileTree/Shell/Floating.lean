import CompileTree.Text.Hex

/-! # Floating numbers

Numbers with a fraction as texts spell them and formats show them. What a text
spells is rounded to the nearest number that has a limited count of binary digits,
half to even, and that number is shown exactly, again rounded half to even.
-/

namespace CompileTree.Shell

/-- A number with a binary exponent. -/
inductive Floating where
  /-- The significand times a power of two. Zero has a sign, too. -/
  | finite (negative : Bool) (significand : Nat) (exponent : Int)
  | infinite (negative : Bool)
  | undefined (negative : Bool)
  deriving DecidableEq, Repr

namespace Floating

/-- Which numbers there are. -/
structure Precision where
  /-- How many binary digits a significand has. -/
  digits : Nat
  /-- The exponent of the least number. -/
  least : Int
  /-- The exponent of the first power of two that is too large. -/
  limit : Int
  deriving DecidableEq, Repr

/-- Numbers of 64 bits. -/
def Precision.double : Precision := ⟨53, -1074, 1024⟩

/-- Numbers of 80 bits. -/
def Precision.extended : Precision := ⟨64, -16445, 16384⟩

/-- A quotient rounded to the nearest whole number, half to even. -/
def nearestQuotient (n d : Nat) : Nat :=
  let q := n / d
  let twice := 2 * (n % d)
  if twice < d ∨ (twice = d ∧ q % 2 = 0) then q else q + 1

/-- A quotient times a power. -/
def scaled (base n d : Nat) (exponent : Int) : Nat × Nat :=
  if 0 ≤ exponent then (n * Nat.pow base exponent.toNat, d)
  else (n, d * Nat.pow base (-exponent).toNat)

/-- The number nearest to a quotient, and whether it is out of range: too large, or too
    small for all its digits. -/
def nearest (f : Precision) (negative : Bool) (n d : Nat) : Floating × Bool :=
  if n = 0 then (.finite negative 0 0, false)
  else
    let start : Int := (n.log2 : Int) - d.log2 - f.digits
    let (a, b) := scaled 2 n d (-start)
    let exponent := if a / b < Nat.pow 2 f.digits then start else start + 1
    let (a, b) := scaled 2 n d (-(max f.least exponent))
    let significand := nearestQuotient a b
    if f.limit ≤ (significand.log2 : Int) + max f.least exponent then (.infinite negative, true)
    else
      (.finite negative significand (max f.least exponent), decide (exponent < f.least) && a % b ≠ 0)

/-- What was read of a text. -/
structure Reading where
  value : Floating
  outOfRange : Bool
  rest : List Char

/-- An exponent behind its letter, and what follows it; nothing is read without digits. -/
def exponentOf (letter : Char) (cs : List Char) : Int × List Char :=
  match cs with
  | c :: rest =>
    if c.toLower ≠ letter then (0, cs)
    else
      let (sign, digits) : Int × List Char := match rest with
        | '-' :: rest => (-1, rest)
        | '+' :: rest => (1, rest)
        | rest => (1, rest)
      let ds := digits.takeWhile Char.isDigit
      if ds.isEmpty then (0, cs)
      else (sign * (Nat.ofDigitChars 10 ds 0 : Nat), digits.drop ds.length)
  | [] => (0, cs)

/-- The digits before and behind a point, and what follows them. -/
def digitsAround (isDigit : Char → Bool) (cs : List Char) : List Char × List Char × List Char :=
  let whole := cs.takeWhile isDigit
  match cs.drop whole.length with
  | '.' :: rest =>
    let decimals := rest.takeWhile isDigit
    if whole.isEmpty && decimals.isEmpty then ([], [], cs)
    else (whole, decimals, rest.drop decimals.length)
  | rest => (whole, [], rest)

/-- The largest exponent that makes a difference. -/
def exponentLimit : Int := 100000

/-- The value of digits with an exponent. -/
def ofDigits (f : Precision) (negative : Bool) (base n : Nat) (exponent : Int) :
    Floating × Bool :=
  let bounded := max (-exponentLimit) (min exponentLimit exponent)
  if n ≠ 0 ∧ bounded ≠ exponent ∧ 0 < exponent then (.infinite negative, true)
  else
    let (a, b) := scaled base n 1 bounded
    nearest f negative a b

/-- What follows the name of an undefined number, which may come with a word in
    parentheses. -/
def withoutPayload (cs : List Char) : List Char :=
  match cs with
  | '(' :: rest =>
    match rest.dropWhile fun c => c.isAlphanum || c == '_' with
    | ')' :: rest => rest
    | _ => cs
  | cs => cs

/-- The number of a given sign at the start of a text. -/
def readMagnitude (f : Precision) (negative : Bool) (cs : List Char) : Option Reading :=
  let lower := cs.map Char.toLower
  if "infinity".toList.isPrefixOf lower then some ⟨.infinite negative, false, cs.drop 8⟩
  else if "inf".toList.isPrefixOf lower then some ⟨.infinite negative, false, cs.drop 3⟩
  else if "nan".toList.isPrefixOf lower then
    some ⟨.undefined negative, false, withoutPayload (cs.drop 3)⟩
  else
    let isHex (c : Char) : Bool := (Text.hexValue? c).isSome
    let (whole, decimals, rest) := match lower with
      | '0' :: 'x' :: _ => digitsAround isHex (cs.drop 2)
      | _ => ([], [], cs)
    if whole.isEmpty && decimals.isEmpty then
      let (whole, decimals, rest) := digitsAround Char.isDigit cs
      if whole.isEmpty && decimals.isEmpty then none
      else
        let (exponent, rest) := exponentOf 'e' rest
        let n := Nat.ofDigitChars 10 (whole ++ decimals) 0
        let (value, outOfRange) := ofDigits f negative 10 n (exponent - decimals.length)
        some ⟨value, outOfRange, rest⟩
    else
      let (exponent, rest) := exponentOf 'p' rest
      let n := (Text.hexNumber? (whole ++ decimals)).getD 0
      let (value, outOfRange) := ofDigits f negative 2 n (exponent - 4 * decimals.length)
      some ⟨value, outOfRange, rest⟩

/-- The number at the start of a text, behind blanks and a sign. -/
def read (f : Precision) (cs : List Char) : Option Reading :=
  match cs.dropWhile fun c => c == ' ' || ('\t' ≤ c && c ≤ '\r') with
  | '-' :: rest => readMagnitude f true rest
  | '+' :: rest => readMagnitude f false rest
  | rest => readMagnitude f false rest

/-- A significand with its exponent times a power of ten, rounded to a whole number. -/
def timesTen (significand : Nat) (exponent places : Int) : Nat :=
  let (n, d) := scaled 2 significand 1 exponent
  let (n, d) := scaled 10 n d places
  nearestQuotient n d

/-- Digits with a point before the last ones; a point that ends them stays only if asked for. -/
def pointed (keepsPoint : Bool) (places : Nat) (digits : List Char) : List Char :=
  let digits := List.replicate (places + 1 - digits.length) '0' ++ digits
  let whole := digits.take (digits.length - places)
  if places = 0 then (if keepsPoint then whole ++ ['.'] else whole)
  else whole ++ '.' :: digits.drop (digits.length - places)

/-- A number with a fixed count of decimals. -/
def fixed (keepsPoint : Bool) (significand : Nat) (exponent : Int) (places : Nat) : List Char :=
  pointed keepsPoint places (Nat.toDigits 10 (timesTen significand exponent places))

/-- Whether a number is not less than a power of ten. -/
def reachesPower (significand : Nat) (exponent power : Int) : Bool :=
  let (a, b) := scaled 2 significand 1 exponent
  let (c, d) := scaled 10 1 1 power
  c * b ≤ a * d

/-- The decimal exponent of a number that is not zero: it is close to what the binary
    exponent says. -/
def decimalExponent (significand : Nat) (exponent : Int) : Int :=
  let guess := ((significand.log2 : Int) + exponent) * 30103 / 100000
  if reachesPower significand exponent (guess + 1) then guess + 1
  else if reachesPower significand exponent guess then guess
  else guess - 1

/-- The digits of a number with one before the point, and its decimal exponent. -/
def scientificDigits (significand : Nat) (exponent : Int) (places : Nat) : Nat × Int :=
  if significand = 0 then (0, 0)
  else
    let power := decimalExponent significand exponent
    let digits := timesTen significand exponent (places - power)
    if digits < Nat.pow 10 (places + 1) then (digits, power) else (digits / 10, power + 1)

/-- An exponent as it is shown. -/
def exponentText (letter : Char) (width : Nat) (exponent : Int) : List Char :=
  let digits := Nat.toDigits 10 exponent.natAbs
  letter :: (if exponent < 0 then '-' else '+') ::
    (List.replicate (width - digits.length) '0' ++ digits)

/-- A number with one digit before the point and an exponent. -/
def scientific (keepsPoint : Bool) (significand : Nat) (exponent : Int) (places : Nat) :
    List Char :=
  let (digits, power) := scientificDigits significand exponent places
  pointed keepsPoint places (Nat.toDigits 10 digits) ++ exponentText 'e' 2 power

/-- Decimals without the zeros at their end. -/
def trimmed (cs : List Char) : List Char :=
  let whole := cs.takeWhile (· ≠ '.')
  let decimals := ((cs.drop (whole.length + 1)).reverse.dropWhile (· == '0')).reverse
  if decimals.isEmpty then whole else whole ++ '.' :: decimals

/-- A number with a count of digits that matter, in the shorter of two ways. -/
def general (keepsZeros : Bool) (significand : Nat) (exponent : Int) (precision : Nat) :
    List Char :=
  let count := max 1 precision
  let (digits, power) := scientificDigits significand exponent (count - 1)
  let keep (cs : List Char) : List Char := if keepsZeros then cs else trimmed cs
  if -4 ≤ power ∧ power < count then
    keep (fixed keepsZeros significand exponent (count - 1 - power).toNat)
  else
    keep (pointed keepsZeros (count - 1) (Nat.toDigits 10 digits)) ++ exponentText 'e' 2 power

/-- A number with hexadecimal digits, the first one made of `lead` binary digits. -/
def hexadecimal (f : Precision) (lead : Nat) (keepsPoint : Bool) (significand : Nat)
    (exponent : Int) (precision : Option Nat) : List Char :=
  let places := (f.digits - lead) / 4
  let shift := min (f.digits - 1 - significand.log2) (exponent - f.least).toNat
  let n := significand * Nat.pow 2 shift
  let power := if significand = 0 then 0 else exponent - shift + 4 * places
  match precision with
  | none =>
    let cs := trimmed (pointed false places (Text.hexDigits n))
    let body := if keepsPoint && !cs.contains '.' then cs ++ ['.'] else cs
    '0' :: 'x' :: body ++ exponentText 'p' 1 power
  | some p =>
    let n := if p < places then nearestQuotient n (Nat.pow 16 (places - p))
      else n * Nat.pow 16 (p - places)
    let (n, power) := if n < Nat.pow 16 (p + 1) then (n, power) else (n / 16, power + 4)
    '0' :: 'x' :: pointed keepsPoint p (Text.hexDigits n) ++ exponentText 'p' 1 power

/-- A number without its sign as a letter and a precision ask for it. -/
def display (f : Precision) (letter : Char) (marked : Bool) (precision : Option Nat) :
    Floating → List Char
  | .infinite _ => "inf".toList
  | .undefined _ => "nan".toList
  | .finite _ significand exponent =>
    match letter with
    | 'e' => scientific marked significand exponent (precision.getD 6)
    | 'g' => general marked significand exponent (precision.getD 6)
    | 'a' => hexadecimal f (if f.digits % 4 = 0 then 4 else f.digits % 4) marked significand exponent
        precision
    | _ => fixed marked significand exponent (precision.getD 6)

/-- Whether a number has a minus sign. -/
def isNegative : Floating → Bool
  | .finite negative .. | .infinite negative | .undefined negative => negative

/-- Whether a number is finite. -/
def isFinite : Floating → Bool
  | .finite .. => true
  | _ => false

example : ((read .double "2.675".toList).map fun r => (display .double 'f' false (some 2) r.value)) =
    some "2.67".toList := by decide

example : ((read .double "1e23".toList).map fun r => (display .double 'f' false (some 0) r.value)) =
    some "99999999999999991611392".toList := by decide

end Floating

end CompileTree.Shell
