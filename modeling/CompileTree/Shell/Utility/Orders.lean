/-! # Orders of texts

Texts are compared by the numbers at their start, by the names of months, or as
versions, in which runs of digits count as numbers.
-/

namespace CompileTree.Shell.Utility

/-- A number with decimals: its sign, its digits and its decimals. -/
structure Numeral where
  negative : Bool
  whole : List Char
  decimals : List Char

namespace Numeral

/-- Whether a character is a blank. -/
def isBlank (c : Char) : Bool := c == ' ' || c == '\t'

/-- The number at the start of a text, with what follows it. -/
def ofStart (cs : List Char) : Numeral × List Char :=
  let cs := cs.dropWhile isBlank
  let (negative, cs) := match cs with
    | '-' :: rest => (true, rest)
    | rest => (false, rest)
  let whole := cs.takeWhile Char.isDigit
  let rest := cs.drop whole.length
  let (decimals, rest) := match rest with
    | '.' :: ds => (ds.takeWhile Char.isDigit, ds.dropWhile Char.isDigit)
    | rest => ([], rest)
  let trimmed := (decimals.reverse.dropWhile (· == '0')).reverse
  (⟨negative, whole.dropWhile (· == '0'), trimmed⟩, rest)

/-- Whether a number is zero. -/
def isZero (n : Numeral) : Bool := n.whole.isEmpty && n.decimals.isEmpty

/-- The order of two numbers without their signs. -/
def compareSizes (a b : Numeral) : Ordering :=
  (compare a.whole.length b.whole.length).then
    ((compare a.whole b.whole).then (compare a.decimals b.decimals))

/-- The order of two numbers. -/
def compareTo (a b : Numeral) : Ordering :=
  let isBelow (n : Numeral) : Bool := n.negative && !n.isZero
  match isBelow a, isBelow b with
  | true, true => compareSizes b a
  | true, false => .lt
  | false, true => .gt
  | false, false => compareSizes a b

end Numeral

namespace Order

/-- The order of two texts by the numbers at their start. -/
def numeric (a b : List Char) : Ordering := (Numeral.ofStart a).1.compareTo (Numeral.ofStart b).1

/-- The rank of the unit that a letter stands for. -/
def unitRank (c : Option Char) : Nat :=
  match c with
  | some 'k' | some 'K' => 1
  | some c => ((['M', 'G', 'T', 'P', 'E', 'Z', 'Y', 'R', 'Q'].idxOf? c).map (· + 2)).getD 0
  | none => 0

/-- The order of two texts by the numbers at their start and the units behind those. -/
def human (a b : List Char) : Ordering :=
  let rank (cs : List Char) : Int :=
    let (n, rest) := Numeral.ofStart cs
    let r : Int := if n.isZero then 0 else unitRank rest.head?
    if n.negative then -r else r
  (compare (rank a) (rank b)).then (numeric a b)

/-- A number in the general form, or what there is in its place. -/
inductive General where
  | none
  | nan
  | finite (mantissa : Int) (exponent : Int)
  | infinite (negative : Bool)

/-- The exponent behind a number. -/
def exponentOf (cs : List Char) : Int :=
  match cs with
  | c :: rest =>
    if c = 'e' ∨ c = 'E' then
      let (sign, ds) := match rest with
        | '-' :: ds => ((-1 : Int), ds)
        | '+' :: ds => (1, ds)
        | ds => (1, ds)
      sign * Nat.ofDigitChars 10 (ds.takeWhile Char.isDigit) 0
    else 0
  | [] => 0

/-- The number in the general form at the start of a text. -/
def general (cs : List Char) : General :=
  let cs := cs.dropWhile fun c => Numeral.isBlank c || c == '\n'
  let (negative, cs) := match cs with
    | '-' :: rest => (true, rest)
    | '+' :: rest => (false, rest)
    | rest => (false, rest)
  let lower := (cs.take 3).map Char.toLower
  if lower = ['i', 'n', 'f'] then .infinite negative
  else if lower = ['n', 'a', 'n'] then .nan
  else
    let whole := cs.takeWhile Char.isDigit
    let rest := cs.drop whole.length
    let (decimals, rest) := match rest with
      | '.' :: ds => (ds.takeWhile Char.isDigit, ds.dropWhile Char.isDigit)
      | rest => ([], rest)
    if whole.isEmpty && decimals.isEmpty then .none
    else
      let digits : Int := (Nat.ofDigitChars 10 (whole ++ decimals) 0 : Nat)
      let exponent := exponentOf rest - decimals.length
      if digits = 0 then .finite 0 0
      else if 6000 < exponent then .infinite negative
      else if exponent < -6000 then .finite 0 0
      else .finite (if negative then -digits else digits) exponent

/-- The order of two numbers in the general form. -/
def compareGeneral (a b : General) : Ordering :=
  let rank (g : General) : Nat :=
    match g with
    | .none => 0
    | .nan => 1
    | .infinite true => 2
    | .finite .. => 3
    | .infinite false => 4
  match a, b with
  | .finite m e, .finite n f =>
    let least := min e f
    compare (m * Nat.pow 10 (e - least).toNat) (n * Nat.pow 10 (f - least).toNat)
  | a, b => compare (rank a) (rank b)

/-- The number of the month whose name stands at the start of a text. -/
def month (cs : List Char) : Nat :=
  let name := String.ofList (((cs.dropWhile Numeral.isBlank).take 3).map Char.toUpper)
  ((["JAN", "FEB", "MAR", "APR", "MAY", "JUN", "JUL", "AUG", "SEP", "OCT", "NOV", "DEC"].idxOf?
    name).map (· + 1)).getD 0

/-- The rank of a character in a version; the end of a text counts as well. -/
def versionRank (c : Option Char) : Int :=
  match c with
  | none => -1
  | some c =>
    if c.isDigit then 0
    else if c.isAlpha then c.toNat
    else if c = '~' then -2
    else c.toNat + 256

/-- The order of two texts up to their next digits, with what follows there. -/
def versionText : Nat → List Char → List Char → Ordering × List Char × List Char
  | 0, a, b => (.eq, a, b)
  | fuel + 1, a, b =>
    let goesOn (cs : List Char) : Bool := cs.head?.any (!·.isDigit)
    if goesOn a || goesOn b then
      match compare (versionRank a.head?) (versionRank b.head?) with
      | .eq => versionText fuel (a.drop 1) (b.drop 1)
      | o => (o, a, b)
    else (.eq, a, b)

/-- The order of two texts as versions; `fuel` bounds the number of runs of digits. -/
def versionRuns : Nat → List Char → List Char → Ordering
  | 0, _, _ => .eq
  | fuel + 1, a, b =>
    if a.isEmpty && b.isEmpty then .eq
    else
      match versionText (a.length + b.length + 1) a b with
      | (.eq, a, b) =>
        let a := a.dropWhile (· == '0')
        let b := b.dropWhile (· == '0')
        let x := a.takeWhile Char.isDigit
        let y := b.takeWhile Char.isDigit
        ((compare x.length y.length).then (compare x y)).then
          (versionRuns fuel (a.drop x.length) (b.drop y.length))
      | (o, _, _) => o

/-- The order of two texts as versions, as they stand. -/
def versionPlain (a b : List Char) : Ordering := versionRuns (a.length + b.length + 1) a b

/-- Whether characters are suffixes of a file name, each with a dot before it. -/
def isSuffixes (cs : List Char) : Bool :=
  match cs.splitOn '.' with
  | [] :: parts => parts.all fun part =>
      part.head?.any (fun c => c.isAlpha || c == '~') && part.all fun c => c.isAlphanum || c == '~'
  | _ => cs.isEmpty

/-- A file name without the suffixes at its end; its first character is no part of them. -/
def withoutSuffixes (cs : List Char) : List Char :=
  let n := ((List.range (cs.length + 1)).drop 1).find? fun n => isSuffixes (cs.drop n)
  cs.take (n.getD cs.length)

/-- The order of two names as versions: names with a dot at the start come first, and suffixes
    count only where all else is equal. -/
def version (a b : List Char) : Ordering :=
  let rank (cs : List Char) : Nat :=
    match cs with
    | [] => 0
    | ['.'] => 1
    | ['.', '.'] => 2
    | '.' :: _ => 3
    | _ => 4
  match compare (rank a) (rank b) with
  | .eq => (versionPlain (withoutSuffixes a) (withoutSuffixes b)).then (versionPlain a b)
  | o => o

example : version "v1.9".toList "v1.10".toList = .lt := by decide

end Order

end CompileTree.Shell.Utility
