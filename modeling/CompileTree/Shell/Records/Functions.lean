import CompileTree.Shell.Records.Streams

/-! # Functions that every program has

What functions of values come to: parts of texts, matches and replacements, numbers,
and times.
-/

namespace CompileTree.Shell.Records

open Utility (Regex)

/-- The place behind a text in another one, counted from one; zero if it is not there. -/
def placeIn (part : List Char) : Nat → List Char → Nat
  | n, cs =>
    if part.isPrefixOf cs then n
    else match cs with
      | [] => 0
      | _ :: cs => placeIn part (n + 1) cs

/-- A number rounded to the nearest whole one, half to even. -/
def nearestWhole (x : Float) : Float :=
  let low := x.floor
  let rest := x - low
  if rest < 0.5 then low
  else if 0.5 < rest then low + 1.0
  else if (low / 2.0).floor * 2.0 == low then low else low + 1.0

/-- The part of a text that starts at a place and has a length at most. What lies outside
    of the text counts for the length. -/
def partOf (text : String) (start : Float) (length : Option Float) : String :=
  let cs := text.toList
  let size := Float.ofNat cs.length
  let first := nearestWhole start
  let last := match length with
    | none => size
    | some n => nearestWhole (start + n) - 1.0
  let first := if first < 1.0 then 1.0 else first
  let last := if size < last then size else last
  if first ≤ last then
    let skipped := (boundedWhole (first - 1.0)).toNat
    String.ofList ((cs.drop skipped).take (boundedWhole last - skipped).toNat)
  else ""

/-- What a replacement stands for, where a sign stands for what was matched. Before the sign,
    every two backslashes stand for one, and one that is left for the sign itself; `slashes`
    counts the backslashes that were read last. -/
def filledIn (matched : List Char) (slashes : Nat) : List Char → List Char
  | '\\' :: rest => filledIn matched (slashes + 1) rest
  | '&' :: rest =>
    let shown := if slashes % 2 = 1 then ['&'] else matched
    List.replicate (slashes / 2) '\\' ++ shown ++ filledIn matched 0 rest
  | c :: rest => List.replicate slashes '\\' ++ c :: filledIn matched 0 rest
  | [] => List.replicate slashes '\\'

/-- A text with its matches replaced, the first one or all, and their number. -/
def replaced (r : Regex) (replacement : String) (all : Bool) (text : String) : String × Nat :=
  let cs := text.toList
  let found := if all then r.occurrences id (cs.length + 2) false [] cs
    else (r.search id [] cs).toList
  let step (state : List (List Char) × Nat) (m : Regex.Match) : List (List Char) × Nat :=
    (filledIn m.matched 0 replacement.toList :: m.before.drop state.2 :: state.1,
      m.before.length + m.matched.length)
  let (parts, start) := found.foldl step ([], 0)
  (String.ofList (cs.drop start :: parts).reverse.flatten, found.length)

/-- What comes of two numbers. -/
def Operation.apply (operation : Operation) (x y : Float) : Float :=
  match operation with
  | .add => x + y
  | .subtract => x - y
  | .multiply => x * y
  | .divide => x / y
  | .power => x.pow y
  | .remainder => remainderOf x y
where
  /-- What is left of a number, with its sign, when another one was taken off as often as
      that can be done. -/
  remainderOf (x y : Float) : Float :=
    match partsOf x, partsOf y with
    | .finite negative n e, .finite _ m f =>
      if m = 0 then 0.0 / 0.0
      else
        let least := min e f
        let a := n * Nat.pow 2 (e - least).toNat
        let b := m * Nat.pow 2 (f - least).toNat
        numberOf (Floating.nearest .double negative
          ((a % b) * (if 0 ≤ least then Nat.pow 2 least.toNat else 1))
          (if least < 0 then Nat.pow 2 (-least).toNat else 1)).1
    | .finite .., .infinite _ => x
    | _, _ => 0.0 / 0.0

/-- Whether a comparison holds. -/
def Comparison.holds (c : Comparison) (o : Ordering) : Bool :=
  match c with
  | .less => o == .lt
  | .atMost => o != .gt
  | .equal => o == .eq
  | .unequal => o != .eq
  | .greater => o == .gt
  | .atLeast => o != .lt

/-! ## Numbers without order -/

/-- The number behind a number in a series that spreads well. -/
def nextSpread (n : UInt32) : UInt32 := UInt32.ofNat (n.toNat * 16807 % 2147483647)

/-- Add the next number of a series: the sum of two earlier ones. -/
def stepRandom (a : Array UInt32) : UInt32 × Array UInt32 :=
  let new := a.getD 0 0 + a.getD 28 0
  (new, (a.extract 1 a.size).push new)

/-- The numbers that a series starts with. -/
def startRandom (seed : UInt32) : Array UInt32 :=
  let first := if seed = 0 then 1 else seed
  let more (a : Array UInt32) (_ : Nat) : Array UInt32 := a.push (nextSpread (a.back?.getD 1))
  let a := (List.range 30).foldl more #[first]
  -- The first three numbers are used once more before the series starts.
  let a := a.extract 3 a.size ++ a.extract 0 3
  (List.range 310).foldl (fun a _ => (stepRandom a).2) a

/-- The next number between zero and one. -/
def nextRandom (a : Array UInt32) : Float × Array UInt32 :=
  let (n, a) := stepRandom a
  (Float.ofNat (n >>> 1).toNat / 2147483647.0, a)

/-! ## Times -/

/-- The time that numbers for year, month, day, hour, minute and second spell, in seconds. -/
def timeOf? (text : String) : Option Int := do
  let parts := ((wordsOf text.toList).map String.ofList)
  let numbers ← parts.mapM Utility.DateReading.number?
  match numbers with
  | year :: month :: day :: hour :: minute :: second :: _ =>
    some (⟨year, month, day, hour, minute, second, 0⟩ : Utility.Moment).seconds
  | _ => none

end CompileTree.Shell.Records
