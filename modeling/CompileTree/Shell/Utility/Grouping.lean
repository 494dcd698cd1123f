import CompileTree.Shell.Utility.Columns
import CompileTree.Shell.Utility.Showing
import CompileTree.Shell.Utility.Sorting

/-! # Lines that belong together

Equal lines that follow each other are put together, sorted files are compared or
joined line by line, and pairs are put in an order that all of them agree with.
-/

namespace CompileTree.Shell.Utility

open Files Text

/-- What of a line is compared with others. -/
structure Likeness where
  fields : Nat
  chars : Nat
  width : Option Nat
  folds : Bool

/-- The part of a line that is compared. -/
def Likeness.part (l : Likeness) (line : List Char) : List Char :=
  let rest := (SortKey.skipFields none l.fields line).drop l.chars
  let rest := l.width.elim rest rest.take
  if l.folds then rest.map Char.toLower else rest

/-- How groups of equal lines are shown. -/
structure Grouping where
  likeness : Likeness
  counts : Bool
  /-- Whether lines that are repeated, and lines that are not, are shown. -/
  repeated : Bool
  single : Bool
  /-- Whether all lines of a group are shown, and how groups are set apart. -/
  all : Option String
  groups : Option String
  lineEnd : Char

/-- Write a group of equal lines; whether something was written before is told. -/
def Grouping.write (x : Grouping) (say : String → Act Unit) (before : Bool)
    (lines : List (List Char)) : Act Bool := do
  let ended (line : List Char) : String := String.ofList (line ++ [x.lineEnd])
  let blank := String.singleton x.lineEnd
  match x.groups, x.all with
  | some kind, _ =>
    if kind ∈ ["prepend", "both"] || (before && kind = "separate") then say blank
    for line in lines do say (ended line)
    if kind ∈ ["append"] then say blank
    return true
  | none, some kind =>
    if lines.length < 2 then return before
    if kind = "prepend" || (before && kind = "separate") then say blank
    for line in lines do say (ended line)
    return true
  | none, none =>
    let shows := if lines.length < 2 then x.single else x.repeated
    if shows then
      let start := if x.counts then aligned 7 lines.length ++ " " else ""
      say (start ++ ended (lines.headD []))
    return before || shows

/-- Arguments in which numbers behind signs are spelled as options. -/
def spelledSkips (arguments : List String) : List String :=
  arguments.map fun a =>
    match a.toList with
    | '-' :: c :: cs => if (c :: cs).all Char.isDigit then "-f" ++ String.ofList (c :: cs) else a
    | _ => a

/-- Put equal lines together. -/
def uniq : Program := fun p arguments =>
  withOptions ⟨['c', 'd', 'D', 'i', 'u', 'z'], ['f', 's', 'w'],
      [("--count", 'c'), ("--repeated", 'd'), ("--all-repeated?", 'D'), ("--group?", 'γ'),
        ("--ignore-case", 'i'), ("--unique", 'u'), ("--zero-terminated", 'z'),
        ("--skip-fields", 'f'), ("--skip-chars", 's'), ("--check-chars", 'w')], false⟩ 1
    (fun p name g => do
      let bad := g.options.findSome? fun (letter, value) =>
        if letter ∈ ['f', 's', 'w'] && (number? value).isNone then
          some ((if letter = 'f' then "invalid number of fields to skip"
            else if letter = 's' then "invalid number of bytes to skip"
            else "invalid number of bytes to compare"), value)
        else none
      if let some (what, value) := bad then
        complain p name (value ++ ": " ++ what)
        return 1
      if let some extra := g.operands[2]? then
        return ← misuse p name ("extra operand " ++ shown extra) 1
      let natOf (letter : Char) : Option Nat := (g.valueOf? letter).bind number?
      let method (letter : Char) (default : String) : Option String :=
        (g.valueOf? letter).map fun v => if v = "" then default else v
      if let some v := method 'D' "none" then
        if v ∉ ["none", "prepend", "separate"] then
          complain p name ("invalid argument " ++ shown v ++ " for '--all-repeated'")
          p.complain "Valid arguments are:\n  - 'none'\n  - 'prepend'\n  - 'separate'"
          p.complain ("Try '" ++ name ++ " --help' for more information.")
          return 1
      if g.has 'γ' && (g.has 'c' || g.has 'd' || g.has 'D' || g.has 'u') then
        return ← misuse p name "--group is mutually exclusive with -c/-d/-D/-u" 1
      if g.has 'c' && g.has 'D' then
        return ← misuse p name "printing all duplicated lines and repeat counts is meaningless" 1
      let x : Grouping :=
        { likeness := ⟨(natOf 'f').getD 0, (natOf 's').getD 0, natOf 'w', g.has 'i'⟩
          counts := g.has 'c', repeated := !g.has 'u', single := !(g.has 'd' || g.has 'D')
          all := method 'D' "none", groups := method 'γ' "separate"
          lineEnd := lineEndFor (g.has 'z') }
      let input := g.operands.headD "-"
      match ← openSource p input with
      | .error e =>
        complain p name (shownIfNeeded input ++ ": " ++ e.text)
        return 1
      | .ok index =>
        let target ← match g.operands[1]? with
          | none | some "-" => pure (.ok none)
          | some file => do
            match ← p.openFile file .write with
            | .ok index => pure (Except.ok (some index))
            | .error e => pure (.error (shownIfNeeded file ++ ": " ++ e.text))
        match target with
        | .error text =>
          complain p name text
          return 1
        | .ok target =>
          let say (text : String) : Act Unit := do
            match target with
            | none => p.say text
            | some index =>
              let _ ← System.write p.number index (toBytes text)
          let result ← eachLine index x.lineEnd
            (fun (st : Bool × List (List Char)) line _ => do
              let (before, group) := st
              match group with
              | [] => return (true, (before, [line]))
              | first :: _ =>
                if x.likeness.part first == x.likeness.part line then
                  return (true, (before, group ++ [line]))
                else
                  let before ← x.write say before group
                  return (true, (before, [line]))) (false, [])
          match result with
          | .ok (before, group) =>
            if !group.isEmpty then
              let before ← x.write say before group
              if before && x.groups = some "both" then say (String.singleton x.lineEnd)
            return 0
          | .error e =>
            complain p name (if e = .isADirectory then "read error: " ++ e.text
              else shownIfNeeded input ++ ": " ++ e.text)
            return 1) p (spelledSkips arguments)

/-- The lines of a file, or the reason why they cannot be read. -/
def linesIn (p : Process) (name file : String) (lineEnd : Char) :
    Act (Option (List (List Char))) := do
  match ← content p file with
  | .ok text => return some (textLines lineEnd text)
  | .error e =>
    complain p name (shownIfNeeded file ++ ": " ++ e.text)
    return none

/-- Lines with the column in which they stand: only in the first file, only in the second
    one, or in both; `fuel` bounds their number. -/
def compared : Nat → List (List Char) → List (List Char) → List (Nat × List Char)
  | 0, _, _ => []
  | _ + 1, [], [] => []
  | fuel + 1, a :: as, [] => (1, a) :: compared fuel as []
  | fuel + 1, [], b :: bs => (2, b) :: compared fuel [] bs
  | fuel + 1, a :: as, b :: bs =>
    match compare a b with
    | .lt => (1, a) :: compared fuel as (b :: bs)
    | .gt => (2, b) :: compared fuel (a :: as) bs
    | .eq => (3, a) :: compared fuel as bs

/-- Whether lines are in order. -/
def inOrder : List (List Char) → Bool
  | a :: b :: rest => compare a b != .gt && inOrder (b :: rest)
  | _ => true

/-- Compare two sorted files line by line. -/
def comm : Program :=
  withOptions ⟨['1', '2', '3', 'z'], ['ω'],
      [("--output-delimiter", 'ω'), ("--total", 'τ'), ("--check-order", 'χ'),
        ("--nocheck-order", 'ν'), ("--zero-terminated", 'z')], false⟩ 1 fun p name g => do
    match g.operands with
    | [] => misuse p name "missing operand" 1
    | [only] => misuse p name ("missing operand after " ++ shown only) 1
    | _ :: _ :: extra :: _ => misuse p name ("extra operand " ++ shown extra) 1
    | [first, second] =>
      let lineEnd := lineEndFor (g.has 'z')
      match ← linesIn p name first lineEnd with
      | none => return 1
      | some as =>
      match ← linesIn p name second lineEnd with
      | none => return 1
      | some bs =>
        let glue := (g.valueOf? 'ω').getD "\t"
        let shows (n : Nat) : Bool := !g.has (Char.ofNat (48 + n))
        let before (n : Nat) : String :=
          String.join (((List.range n).drop 1).filter shows |>.map fun _ => glue)
        let rows := compared (as.length + bs.length + 1) as bs
        for (n, line) in rows do
          if shows n then
            p.say (before n ++ String.ofList (line ++ [lineEnd]))
        if g.has 'τ' then
          let count (n : Nat) : String := toString (rows.filter (·.1 == n)).length
          p.say (count 1 ++ glue ++ count 2 ++ glue ++ count 3 ++ glue ++ "total\n")
        if g.has 'ν' then return 0
        let bad := [(1, as), (2, bs)].filter fun x => !inOrder x.2
        for (n, _) in bad do
          complain p name ("file " ++ toString n ++ " is not in sorted order")
        if bad.isEmpty then return 0
        if !g.has 'χ' then complain p name "input is not in sorted order"
        return 1

/-- How two files are joined. -/
structure Joining where
  separator : Option Char
  folds : Bool
  first : Nat
  second : Nat
  /-- The fields that are written, of one file or the other; zero is the common one. -/
  format : Option (List (Nat × Nat))
  empty : List Char

namespace Joining

/-- The fields of a line. -/
def fields (j : Joining) (line : List Char) : List (List Char) :=
  match j.separator with
  | some c => line.splitOn c
  | none => ((line.splitBy fun a b => isBlankChar a == isBlankChar b).filter fun w =>
      !(w.head?.any isBlankChar))

/-- The field by which a line is joined. -/
def key (j : Joining) (n : Nat) (fs : List (List Char)) : List Char :=
  let k := (fs[n - 1]?).getD []
  if j.folds then k.map Char.toLower else k

/-- The line that is written for a pair of lines, of which one may be missing. -/
def row (j : Joining) (a b : Option (List (List Char))) : List Char :=
  let common := match a, b with
    | some fs, _ => (fs[j.first - 1]?).getD []
    | none, some fs => (fs[j.second - 1]?).getD []
    | none, none => []
  let filled (cs : List Char) : List Char := if cs.isEmpty then j.empty else cs
  let others (fs : Option (List (List Char))) (n : Nat) : List (List Char) :=
    (fs.getD []).eraseIdx (n - 1)
  let parts := match j.format with
    | some cells => cells.map fun (file, n) =>
        if file = 0 then filled common
        else filled ((((if file = 1 then a else b).getD [])[n - 1]?).getD [])
    | none => filled common :: (others a j.first ++ others b j.second).map filled
  [j.separator.getD ' '].intercalate parts

/-- The rows of a join: of pairs, of lines of the first file only and of the second one only;
    `fuel` bounds the number of steps. -/
def rows (j : Joining) : Nat → List (List (List Char)) → List (List (List Char)) →
    List (Nat × List Char)
  | 0, _, _ => []
  | _ + 1, [], bs => bs.map fun b => (2, j.row none (some b))
  | _ + 1, as, [] => as.map fun a => (1, j.row (some a) none)
  | fuel + 1, a :: as, b :: bs =>
    let x := j.key j.first a
    let y := j.key j.second b
    match compare x y with
    | .lt => (1, j.row (some a) none) :: rows j fuel as (b :: bs)
    | .gt => (2, j.row none (some b)) :: rows j fuel (a :: as) bs
    | .eq =>
      let left := (a :: as).takeWhile fun l => j.key j.first l == x
      let right := (b :: bs).takeWhile fun l => j.key j.second l == x
      (left.flatMap fun l => right.map fun r => (3, j.row (some l) (some r))) ++
        rows j fuel ((a :: as).drop left.length) ((b :: bs).drop right.length)

end Joining

/-- Join the lines of two sorted files by a common field. -/
def join : Program :=
  withOptions ⟨['i', 'z'], ['a', 'e', 'j', 'o', 't', 'v', '1', '2'],
      [("--ignore-case", 'i'), ("--zero-terminated", 'z'), ("--header", 'η'),
        ("--check-order", 'χ'), ("--nocheck-order", 'ν')], false⟩ 1 fun p name g => do
    match g.operands with
    | [] => misuse p name "missing operand" 1
    | [only] => misuse p name ("missing operand after " ++ shown only) 1
    | _ :: _ :: extra :: _ => misuse p name ("extra operand " ++ shown extra) 1
    | [first, second] =>
      let lineEnd := lineEndFor (g.has 'z')
      match ← linesIn p name first lineEnd with
      | none => return 1
      | some as =>
      match ← linesIn p name second lineEnd with
      | none => return 1
      | some bs =>
        let natOf (letter : Char) (default : Nat) : Nat :=
          ((g.valueOf? letter).bind number?).getD default
        let common := natOf 'j' 1
        let cells := (g.options.filter (·.1 == 'o')).flatMap fun o =>
          ((o.2.toList.map fun c => if c = ' ' then ',' else c).splitOn ',').filterMap fun cs =>
            match cs.splitOn '.' with
            | [['0']] => some (0, 0)
            | [f, n] => do return (← number? (String.ofList f), ← number? (String.ofList n))
            | _ => none
        let j : Joining :=
          { separator := (g.valueOf? 't').bind (·.toList.head?), folds := g.has 'i'
            first := natOf '1' common, second := natOf '2' common
            format := if cells.isEmpty then none else some cells
            empty := ((g.valueOf? 'e').getD "").toList }
        let asFields := as.map j.fields
        let bsFields := bs.map j.fields
        let (start, asFields, bsFields) := if g.has 'η' then
            ([j.row asFields.head? bsFields.head?], asFields.drop 1, bsFields.drop 1)
          else ([], asFields, bsFields)
        for line in start do sayLine p line lineEnd
        let shows (n : Nat) : Bool :=
          let asked (letter : Char) : Bool :=
            g.options.any fun o => o.1 == letter && number? o.2 == some n
          if n = 3 then !g.has 'v' else asked 'a' || asked 'v'
        for (n, line) in j.rows (asFields.length + bsFields.length + 1) asFields bsFields do
          if shows n then sayLine p line lineEnd
        return 0

/-- Put lines in another order. -/
def shuffle : Program :=
  withOptions ⟨['e', 'r', 'z'], ['i', 'n', 'o', 'ξ'],
      [("--echo", 'e'), ("--input-range", 'i'), ("--head-count", 'n'), ("--output", 'o'),
        ("--random-source", 'ξ'), ("--repeat", 'r'), ("--zero-terminated", 'z')], false⟩ 1
    fun p name g => do
      let lineEnd := lineEndFor (g.has 'z')
      let limit := ((g.valueOf? 'n').bind number?)
      let lines ←
        if g.has 'e' then pure (some (g.operands.map String.toList))
        else match g.valueOf? 'i' with
          | some range =>
            match (range.toList.splitOn '-').map fun cs => number? (String.ofList cs) with
            | [some low, some high] =>
              pure (some ((List.range (high + 1 - low)).map fun k => (toString (low + k)).toList))
            | _ => do
              complain p name ("invalid input range: " ++ marked range)
              pure none
          | none => linesIn p name (g.operands.headD "-") lineEnd
      match lines with
      | none => return 1
      | some lines =>
        let seed := (← get).clock
        let keyed := lines.zipIdx.map fun (line, k) => (Ranking.scramble (toString (seed + k)).toList, line)
        let mixed := (keyed.mergeSort fun a b => a.1 ≤ b.1).map (·.2)
        let kept := limit.elim mixed mixed.take
        for line in kept do sayLine p line lineEnd
        return 0

/-- Items in an order in which every one stands behind those that come before it in a pair.
    The items stand in the order in which they were named; `fuel` bounds their number. Where
    pairs go round in a circle, the first of the circle is taken out, and told. -/
def sortedPairs : Nat → List (List Char) → List (List Char × List Char) →
    List (List Char × Option (List (List Char)))
  | 0, _, _ => []
  | _ + 1, [], _ => []
  | fuel + 1, items, pairs =>
    match items.filter fun i => pairs.all fun p => p.2 != i with
    | [] =>
      let rec back : Nat → List (List Char) → List (List Char)
        | 0, path => path
        | n + 1, path =>
          match path, pairs.find? fun p => some p.2 == path.head? with
          | path, some (before, _) =>
            if path.contains before then before :: path.takeWhile (· != before)
            else back n (before :: path)
          | path, none => path
      let circle := back (items.length + 1) (items.take 1)
      match circle with
      | first :: rest =>
        let last := rest.getLastD first
        ([], some (first :: rest)) ::
          sortedPairs fuel items (pairs.filter fun p => !(p.1 == last && p.2 == first) &&
            !(rest.isEmpty && p.1 == first && p.2 == first))
      | [] => []
    | ready =>
      ready.map (·, none) ++
        sortedPairs fuel (items.filter (!ready.contains ·)) (pairs.filter fun p => !ready.contains p.1)

/-- Put items in an order that pairs of them ask for. -/
def sortPairs : Program :=
  withOptions ⟨[], [], [], false⟩ 1 fun p name g => do
    let file := g.operands.headD "-"
    match ← content p file with
    | .error e =>
      complain p name (shownIfNeeded file ++ ": " ++ e.text)
      return 1
    | .ok text =>
      let isGap (c : Char) : Bool := c == ' ' || c == '\t' || c == '\n'
      let words := (text.toList.splitBy fun a b => isGap a == isGap b).filter fun w =>
        !(w.head?.any isGap)
      if words.length % 2 = 1 then
        complain p name (shownIfNeeded file ++ ": input contains an odd number of tokens")
        return 1
      let rec pairs : List (List Char) → List (List Char × List Char)
        | a :: b :: rest => (a, b) :: pairs rest
        | _ => []
      let all := pairs words
      let mut status := 0
      for (item, circle) in sortedPairs (2 * words.length + 2) words.eraseDups
          (all.filter fun x => x.1 != x.2) do
        match circle with
        | none => sayLine p item '\n'
        | some items =>
          complain p name (shownIfNeeded file ++ ": input contains a loop:")
          for i in items do complain p name (String.ofList i)
          status := 1
      return status

end CompileTree.Shell.Utility
