import CompileTree.Shell.Extended.Syntax

/-! # Alternatives in braces

Braces in a word hold alternatives between commas, or the ends of a row of numbers or
letters; the word stands for one word for each. Braces in which there is neither stand
for themselves.
-/

namespace CompileTree.Shell.Extended.Braces

/-- A character that may have a meaning, or a part of a word that has none here. -/
inductive Mark where
  | char (c : Char)
  | part (p : Part)

/-- Whether a mark is a given character. -/
def Mark.is (m : Mark) (c : Char) : Bool :=
  match m with
  | .char d => c == d
  | .part _ => false

/-- The marks of a word. -/
def marksOf (ps : List Part) : List Mark :=
  ps.flatMap fun
    | .text false cs => cs.map .char
    | p => [.part p]

/-- The word that marks make up. -/
def partsOf : List Mark → List Part
  | [] => []
  | .char c :: rest => consText false [c] (partsOf rest)
  | .part p :: rest => p :: partsOf rest

/-- What stands behind an opening brace up to the brace that closes it, and what follows it;
    `depth` more are open, and `divided` tells whether there was a comma or a row. -/
def closed? : Nat → Bool → List Mark → Option (List Mark × List Mark)
  | _, _, [] => none
  | depth, divided, m :: rest =>
    let after (depth : Nat) (divided : Bool) : Option (List Mark × List Mark) :=
      (closed? depth divided rest).map fun (inner, rest) => (m :: inner, rest)
    if m.is '\x7d' then
      match depth with
      | 0 => if divided then some ([], rest) else after 0 divided
      | depth + 1 => after depth divided
    else if m.is '\x7b' then after (depth + 1) divided
    else if depth = 0 then
      let isRow := m.is '.' && (rest.head?.any (·.is '.')) &&
        !((rest.drop 1).head?.any (·.is '\x7d'))
      after 0 (divided || m.is ',' || isRow)
    else after depth divided

/-- The first braces in a word: what stands before them, in them and behind them. -/
def first? : List Mark → Option (List Mark × List Mark × List Mark)
  | [] => none
  | m :: rest =>
    match if m.is '\x7b' then closed? 0 false rest else none with
    | some (inner, after) => some ([], inner, after)
    | none => (first? rest).map fun (before, inner, after) => (m :: before, inner, after)

/-- The alternatives between commas; `depth` braces are open. -/
def alternatives : Nat → List Mark → List (List Mark)
  | _, [] => [[]]
  | depth, m :: rest =>
    if m.is ',' && depth == 0 then [] :: alternatives 0 rest
    else
      let depth := if m.is '\x7b' then depth + 1 else if m.is '\x7d' then depth - 1 else depth
      match alternatives depth rest with
      | first :: others => (m :: first) :: others
      | [] => [[m]]

/-- The number that a text spells, with an optional sign. -/
def number? (cs : List Char) : Option Int :=
  let (sign, digits) := match cs with
    | '-' :: rest => ((-1 : Int), rest)
    | '+' :: rest => (1, rest)
    | rest => (1, rest)
  if !digits.isEmpty && digits.all Char.isDigit then some (sign * Nat.ofDigitChars 10 digits 0)
  else none

/-- Whether a number is spelled with a zero before it. -/
def isPadded (cs : List Char) : Bool :=
  match cs with
  | '-' :: '0' :: _ => true
  | '0' :: _ :: _ => true
  | _ => false

/-- The numbers from one to another in steps; `count` bounds how many. -/
def row (start finish step : Int) : Nat → List Int
  | 0 => []
  | count + 1 =>
    if (0 < step && finish < start) || (step < 0 && start < finish) then []
    else start :: row (start + step) finish step count

/-- How many words a row may stand for. -/
def rowLimit : Nat := 1000000

/-- A number in at least so many characters. -/
def padded (width : Nat) (n : Int) : List Char :=
  let digits := (toString n.natAbs).toList
  let sign := if n < 0 then ['-'] else []
  sign ++ List.replicate (width - sign.length - digits.length) '0' ++ digits

/-- The words that the ends of a row stand for. -/
def row? (cs : List Char) : Option (List (List Char)) :=
  let (texts, steps) := match splitRows cs with
    | [a, b] => (some (a, b), some 1)
    | [a, b, s] => (some (a, b), number? s)
    | _ => (none, none)
  match texts, steps with
  | some (a, b), some step =>
    let stepFrom (x y : Int) : Int :=
      let size := if step = 0 then 1 else step.natAbs
      if y < x then -(size : Int) else size
    match number? a, number? b, a, b with
    | some x, some y, _, _ =>
      let width := if isPadded a || isPadded b then max a.length b.length else 0
      some ((row x y (stepFrom x y) rowLimit).map (padded width))
    | none, none, [c], [d] =>
      if c.isAlpha && d.isAlpha then
        let x : Int := c.toNat
        let y : Int := d.toNat
        some ((row x y (stepFrom x y) rowLimit).map fun n => [Char.ofNat n.toNat])
      else none
    | _, _, _, _ => none
  | _, _ => none
where
  splitRows : List Char → List (List Char)
    | '.' :: '.' :: rest => [] :: splitRows rest
    | c :: rest =>
      match splitRows rest with
      | first :: others => (c :: first) :: others
      | [] => [[c]]
    | [] => [[]]

/-- The words that a word with braces stands for; `fuel` bounds how many braces there are. -/
def expandWithin : Nat → List Mark → List (List Mark)
  | 0, ms => [ms]
  | fuel + 1, ms =>
    match first? ms with
    | none => [ms]
    | some (before, inner, after) =>
      let middles : Option (List (List Mark)) :=
        if inner.any (·.is ',') then
          some ((alternatives 0 inner).flatMap (expandWithin fuel))
        else
          let cs := inner.filterMap fun
            | .char c => some c
            | .part _ => none
          match if cs.length = inner.length then row? cs else none with
          | some texts => some (texts.map (·.map .char))
          | none => if after.isEmpty then none else some [.char '\x7b' :: inner ++ [.char '\x7d']]
      match middles with
      | none => [ms]
      | some middles =>
        let ends := if after.isEmpty then [[]] else expandWithin fuel after
        middles.flatMap fun middle => ends.map fun end_ => before ++ middle ++ end_

/-- The words that a word with braces stands for. -/
def expand (ps : List Part) : List (List Part) :=
  let ms := marksOf ps
  if ms.any (·.is '\x7b') then (expandWithin (ms.length + 1) ms).map partsOf else [ps]

end CompileTree.Shell.Extended.Braces
