import CompileTree.Shell.Utility.Orders
import CompileTree.Shell.Utility.Streams

/-! # Sorting

Lines are compared by keys, which are parts of them with an order each, and at last as
they stand.
-/

namespace CompileTree.Shell.Utility

open Files Text

/-- How keys are compared. -/
structure Ranking where
  /-- Whether blanks at the start of the key and at its end do not count. -/
  skipsStart : Bool
  skipsEnd : Bool
  letters : List Char

namespace Ranking

/-- Nothing is said about the order. -/
def none : Ranking := ⟨false, false, []⟩

/-- Whether something is said by a letter. -/
def has (r : Ranking) (c : Char) : Bool := r.letters.contains c

/-- Whether nothing is said about the order. -/
def isDefault (r : Ranking) : Bool := !r.skipsStart && !r.skipsEnd && r.letters.isEmpty

/-- The characters of a text that count, in the form in which they do. -/
def counted (r : Ranking) (cs : List Char) : List Char :=
  let cs := if r.has 'd' then cs.filter fun c => c.isAlphanum || c == ' ' || c == '\t'
    else if r.has 'i' then cs.filter fun c => ' ' ≤ c && c ≤ '~'
    else cs
  if r.has 'f' then cs.map Char.toUpper else cs

/-- A number without any order that stands for a text. -/
def scramble (cs : List Char) : Nat :=
  cs.foldl (fun n c => (n * 6364136223846793005 + c.toNat + 1442695040888963407) % 18446744073709551616)
    7046029254386353131

/-- The order of two keys. -/
def order (r : Ranking) (a b : List Char) : Ordering :=
  let o := if r.has 'n' then Order.numeric a b
    else if r.has 'g' then Order.compareGeneral (Order.general a) (Order.general b)
    else if r.has 'h' then Order.human a b
    else if r.has 'M' then compare (Order.month a) (Order.month b)
    else
      let x := r.counted a
      let y := r.counted b
      if r.has 'R' then (compare (scramble x) (scramble y)).then (compare x y)
      else if r.has 'V' then Order.version x y
      else compare x y
  if r.has 'r' then o.swap else o

end Ranking

/-- A key: where it starts and where it ends, counted in fields and characters. -/
structure SortKey where
  startField : Nat
  startChar : Nat
  /-- The field in which the key ends, and the character in it, or zero for all of it. -/
  ending : Option (Nat × Nat)
  ranking : Ranking

namespace SortKey

/-- What is left behind the fields before a position. -/
def skipFields (separator : Option Char) : Nat → List Char → List Char
  | 0, cs => cs
  | n + 1, cs =>
    match separator with
    | some c => skipFields separator n ((cs.dropWhile (· != c)).drop 1)
    | none => skipFields separator n ((cs.dropWhile Numeral.isBlank).dropWhile (!Numeral.isBlank ·))

/-- What is left behind the last of some fields, with its separator unless it is wanted. -/
def skipLast (separator : Option Char) (wholly : Bool) : Nat → List Char → List Char
  | 0, cs => cs
  | n + 1, cs =>
    match separator with
    | some c =>
      let rest := cs.dropWhile (· != c)
      skipLast separator wholly n (if n = 0 && wholly then rest else rest.drop 1)
    | none =>
      skipLast separator wholly n ((cs.dropWhile Numeral.isBlank).dropWhile (!Numeral.isBlank ·))

/-- The characters of a line that a key consists of. -/
def part (k : SortKey) (separator : Option Char) (line : List Char) : List Char :=
  let start := skipFields separator k.startField line
  let start := if k.ranking.skipsStart then start.dropWhile Numeral.isBlank else start
  let start := start.drop k.startChar
  match k.ending with
  | none => start
  | some (field, char) =>
    let rest :=
      if char = 0 then skipLast separator true (field + 1) line
      else
        let rest := skipLast separator false field line
        let rest := if k.ranking.skipsEnd then rest.dropWhile Numeral.isBlank else rest
        rest.drop char
    start.take (start.length - rest.length)

/-- A number at the start of a specification, with what follows it. -/
def natural? (cs : List Char) : Option (Nat × List Char) :=
  let digits := cs.takeWhile Char.isDigit
  if digits.isEmpty then none
  else some (Nat.ofDigitChars 10 digits 0, cs.drop digits.length)

/-- The letters of an order at the start of a specification, with what follows them. -/
def ranked (atStart : Bool) : List Char → Ranking → Ranking × List Char
  | [], r => (r, [])
  | c :: cs, r =>
    if c = 'b' then
      ranked atStart cs (if atStart then { r with skipsStart := true } else { r with skipsEnd := true })
    else if c ∈ ['d', 'f', 'g', 'h', 'i', 'M', 'n', 'R', 'r', 'V'] then
      ranked atStart cs { r with letters := c :: r.letters }
    else (r, c :: cs)

/-- The key that a text spells, or what is wrong with it. -/
def ofText (text : String) : Except String SortKey := do
  let bad {α : Type} (what : String) : Except String α :=
    .error (what ++ ": invalid field specification " ++ marked text)
  let badNumber {α : Type} (what : String) (cs : List Char) : Except String α :=
    .error (what ++ ": invalid count at start of " ++ marked (String.ofList cs))
  match natural? text.toList with
  | none => badNumber "invalid number at field start" text.toList
  | some (0, _) => bad "field number is zero"
  | some (field + 1, rest) =>
    let (char, rest) ← match rest with
      | '.' :: cs =>
        match natural? cs with
        | none => badNumber "invalid number after '.'" cs
        | some (0, _) => bad "character offset is zero"
        | some (n + 1, rest) => pure (n, rest)
      | cs => pure (0, cs)
    let (r, rest) := ranked true rest .none
    match rest with
    | [] => return ⟨field, char, none, r⟩
    | ',' :: cs =>
      match natural? cs with
      | none => badNumber "invalid number after ','" cs
      | some (0, _) => bad "field number is zero"
      | some (last + 1, rest) =>
        let (lastChar, rest) ← match rest with
          | '.' :: cs =>
            match natural? cs with
            | none => badNumber "invalid number after '.'" cs
            | some (n, rest) => pure (n, rest)
          | cs => pure (0, cs)
        let (r, rest) := ranked false rest r
        if rest.isEmpty then return ⟨field, char, some (last, lastChar), r⟩
        else bad "stray character in field spec"
    | _ => bad "stray character in field spec"

end SortKey

/-- How lines are sorted. -/
structure Sorter where
  keys : List SortKey
  ranking : Ranking
  separator : Option Char
  stable : Bool
  unique : Bool

namespace Sorter

/-- A line with the keys by which it is compared. -/
abbrev Keyed := List (List Char) × List Char

/-- A line with its keys. -/
def keyed (s : Sorter) (line : List Char) : Keyed := (s.keys.map (·.part s.separator line), line)

/-- The order of two lines by their keys. -/
def keyOrder (s : Sorter) (a b : Keyed) : Ordering :=
  ((s.keys.zip (a.1.zip b.1)).foldl (fun o (k, x, y) =>
    match o with
    | .eq => k.ranking.order x y
    | o => o) Ordering.eq)

/-- The order of two lines. -/
def order (s : Sorter) (a b : Keyed) : Ordering :=
  match s.keyOrder a b with
  | .eq =>
    if s.stable || s.unique then .eq
    else if s.ranking.has 'r' then (compare a.2 b.2).swap else compare a.2 b.2
  | o => o

/-- The first of lists whose first line comes before those of the others. -/
def leastHead (s : Sorter) : List (List Keyed) → Option Keyed
  | [] => none
  | [] :: rest => s.leastHead rest
  | (x :: _) :: rest =>
    match s.leastHead rest with
    | none => some x
    | some y => if s.order x y == .gt then some y else some x

/-- Lists without the line that was chosen from them. -/
def dropHead (s : Sorter) (x : Keyed) : List (List Keyed) → List (List Keyed)
  | [] => []
  | [] :: rest => s.dropHead x rest
  | (y :: ys) :: rest =>
    if s.order y x == .eq then ys :: rest else (y :: ys) :: s.dropHead x rest

/-- Lists that are in order, put together in order; `fuel` bounds the number of lines. -/
def merge (s : Sorter) : Nat → List (List Keyed) → List Keyed
  | 0, _ => []
  | fuel + 1, lists =>
    match s.leastHead lists with
    | none => []
    | some x => x :: s.merge fuel (s.dropHead x lists)

/-- Lines without those that are equal to the one before them. -/
def distinct (s : Sorter) : List Keyed → List Keyed
  | [] => []
  | [x] => [x]
  | x :: y :: rest =>
    if s.order x y == .eq then distinct s (x :: rest) else x :: distinct s (y :: rest)
termination_by xs => xs.length

/-- The first line that stands behind one that it should come before, with its number. -/
def disorder? (s : Sorter) : Nat → List Keyed → Option (Nat × Keyed)
  | n, x :: y :: rest =>
    let o := s.order x y
    if o == .gt || (s.unique && o == .eq) then some (n + 1, y) else s.disorder? (n + 1) (y :: rest)
  | _, _ => none

end Sorter

/-- The lines of a text. -/
def textLines (lineEnd : Char) (text : String) : List (List Char) :=
  let lines := text.toList.splitOn lineEnd
  if lines.getLast? == some [] then lines.dropLast else lines

/-- The orders that exclude each other. -/
def exclusive (letters : List Char) : Option String :=
  let kinds := ['g', 'h', 'M', 'n', 'R', 'V'].filter letters.contains
  let plain := if kinds.all (· == 'R') || kinds.all (· == 'V') then [] else ['d', 'i'].filter letters.contains
  if 1 < kinds.length || (!kinds.isEmpty && !plain.isEmpty) then
    some (String.ofList ((['d', 'g', 'h', 'i', 'M', 'n', 'R', 'V'].filter letters.contains)))
  else none

/-- The letters that say something about the order of all keys. -/
def rankingLetters : List Char := ['d', 'f', 'g', 'h', 'i', 'M', 'n', 'R', 'r', 'V']

/-- The lines of files, a list for every file; none if one cannot be read, which is told. -/
def sortedInputs (p : Process) (name : String) (lineEnd : Char) : List String →
    Act (Option (List (List (List Char))))
  | [] => return some []
  | file :: rest => do
    match ← openSource p file with
    | .error e =>
      complain p name ("cannot read: " ++ shownIfNeeded file ++ ": " ++ e.text)
      return none
    | .ok index =>
      match ← System.read index none with
      | .error e =>
        complain p name ("read failed: " ++ shownIfNeeded file ++ ": " ++ e.text)
        return none
      | .ok bytes =>
        let lines := textLines lineEnd (ofBytes bytes)
        return (← sortedInputs p name lineEnd rest).map (lines :: ·)

/-- Sort lines. -/
def sort : Program :=
  withOptions ⟨['b', 'c', 'C', 'd', 'f', 'g', 'h', 'i', 'm', 'M', 'n', 'r', 'R', 's', 'u', 'V', 'z'],
      ['k', 'o', 'S', 't', 'T', 'y', 'π', 'φ', 'ξ', 'σ', 'β'],
      [("--ignore-leading-blanks", 'b'), ("--check?", 'χ'), ("--dictionary-order", 'd'),
        ("--ignore-case", 'f'), ("--general-numeric-sort", 'g'), ("--human-numeric-sort", 'h'),
        ("--ignore-nonprinting", 'i'), ("--merge", 'm'), ("--month-sort", 'M'),
        ("--numeric-sort", 'n'), ("--reverse", 'r'), ("--random-sort", 'R'), ("--stable", 's'),
        ("--unique", 'u'), ("--version-sort", 'V'), ("--zero-terminated", 'z'), ("--key", 'k'),
        ("--output", 'o'), ("--buffer-size", 'S'), ("--field-separator", 't'),
        ("--temporary-directory", 'T'), ("--parallel", 'π'), ("--files0-from", 'φ'),
        ("--random-source", 'ξ'), ("--sort", 'σ'), ("--batch-size", 'β'),
        ("--compress-program", 'T'), ("--debug", 'δ')], false⟩ 2
    fun p name g => do
      let fail (text : String) : Act Nat := do
        complain p name text
        return 2
      let sortLetter (word : String) : List Char :=
        match word with
        | "general-numeric" => ['g']
        | "human-numeric" => ['h']
        | "month" => ['M']
        | "numeric" => ['n']
        | "random" => ['R']
        | "version" => ['V']
        | _ => []
      let letters := g.options.flatMap fun (c, value) =>
        if rankingLetters.contains c then [c] else if c = 'σ' then sortLetter value else []
      let ranking : Ranking := ⟨g.has 'b', g.has 'b', letters⟩
      match ((g.options.filter (·.1 == 'k')).map (·.2)).mapM SortKey.ofText with
      | .error text => fail text
      | .ok keys =>
        let keys := keys.map fun k =>
          if k.ranking.isDefault then { k with ranking } else k
        let keys := if keys.isEmpty && !ranking.isDefault then
            if (letters.filter (· ≠ 'r')).isEmpty && !g.has 'b' then [] else [⟨0, 0, none, ranking⟩]
          else keys
        if let some bad := (keys.map (·.ranking.letters)).findSome? exclusive then
          return ← fail ("options '-" ++ bad ++ "' are incompatible")
        let separator ← match g.valueOf? 't' with
          | none => pure (.ok none)
          | some text =>
            match text.toList with
            | [] => pure (Except.error "empty tab")
            | [c] => pure (.ok (some c))
            | ['\\', '0'] => pure (.ok (some '\x00'))
            | _ => pure (.error ("multi-character tab " ++ marked text))
        match separator with
        | .error text => fail text
        | .ok separator =>
        let lineEnd := lineEndFor (g.has 'z')
        let checks := g.has 'c' || g.has 'C' || g.has 'χ'
        let quiet := g.has 'C' || (g.valueOf? 'χ').any (· ∈ ["quiet", "silent"])
        let s : Sorter := ⟨keys, ranking, separator, g.has 's', g.has 'u'⟩
        let files ← match g.valueOf? 'φ' with
          | none => pure (orInput g.operands)
          | some source => do
            let text := ((← content p source).toOption).getD ""
            pure (((text.toList.splitOn '\x00').filter (· ≠ [])).map String.ofList)
        if checks then
          if let some extra := files[1]? then
            complain p name ("extra operand " ++ marked extra ++ " not allowed with -" ++
              (if quiet then "C" else "c"))
            return 2
        match ← sortedInputs p name lineEnd files with
        | none => return 2
        | some inputs =>
          let keyed := inputs.map (·.map s.keyed)
          if checks then
            match s.disorder? 1 keyed.flatten with
            | none => return 0
            | some (n, _, line) =>
              if !quiet then
                complain p name (files.headD "-" ++ ":" ++ toString n ++ ": disorder: " ++
                  String.ofList line)
              return 1
          let before (a b : Sorter.Keyed) : Bool := s.order a b != .gt
          let sorted := if g.has 'm' then s.merge (keyed.flatten.length + 1) keyed
            else if keys.isEmpty then
              let lines := (inputs.flatten.map String.ofList).mergeSort fun a b =>
                if ranking.has 'r' then !(a < b) else !(b < a)
              lines.map fun l => ([], l.toList)
            else keyed.flatten.mergeSort before
          let plainUnique := s.unique && keys.isEmpty
          let kept := if plainUnique then
              sorted.foldr (fun x rest =>
                if rest.head?.any (·.2 == x.2) then rest else x :: rest) []
            else if s.unique then s.distinct sorted else sorted
          match g.valueOf? 'o' with
          | none =>
            for (_, line) in kept do sayLine p line lineEnd
            return 0
          | some file =>
            match ← p.openFile file .write with
            | .error e => fail ("open failed: " ++ shownIfNeeded file ++ ": " ++ e.text)
            | .ok index =>
              let text := String.join (kept.map fun x => String.ofList (x.2 ++ [lineEnd]))
              let _ ← System.write p.number index (toBytes text)
              return 0

end CompileTree.Shell.Utility
