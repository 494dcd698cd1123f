import CompileTree.Shell.Utility.Streams

/-! # Utilities for columns

Parts of lines are chosen, lines of several files are set side by side, long lines are
folded, and tabs and blanks are exchanged.
-/

namespace CompileTree.Shell.Utility

open Files Text

/-- A range of positions from one on, which may have no end. -/
structure Range where
  first : Nat
  last : Option Nat
  deriving DecidableEq, Repr

namespace Range

/-- What is wrong with a list of ranges. -/
inductive Fault where
  | zero
  | decreasing
  | noEnds
  | malformed
  | noNumber (text : String)
  deriving DecidableEq, Repr

/-- The range that a part of a list spells. -/
def ofPart (part : List Char) : Except Fault Range := do
  let number (cs : List Char) : Except Fault Nat :=
    match number? (String.ofList cs) with
    | some 0 => .error .zero
    | some n => .ok n
    | none => .error (.noNumber (String.ofList part))
  match part.splitOn '-' with
  | [cs] =>
    if cs.isEmpty then throw .zero
    let n ← number cs
    return ⟨n, some n⟩
  | [[], []] => throw .noEnds
  | [cs, []] => return ⟨← number cs, none⟩
  | [[], cs] => return ⟨1, some (← number cs)⟩
  | [cs, ds] =>
    let low ← number cs
    let high ← number ds
    if high < low then throw .decreasing
    return ⟨low, some high⟩
  | _ => throw .malformed

/-- The ranges that a list spells, in order. -/
def ofText (text : String) : Except Fault (List Range) := do
  let parts := (text.toList.map fun c => if c = ' ' ∨ c = '\t' then ',' else c).splitOn ','
  return (← parts.mapM ofPart).mergeSort fun a b => a.first ≤ b.first

/-- Ranges in order without those that others reach. -/
def merged : List Range → List Range
  | [] => []
  | [r] => [r]
  | r :: s :: rest =>
    match r.last, s.last with
    | none, _ => [r]
    | some e, l =>
      if s.first ≤ e then
        merged (⟨r.first, l.map (max e)⟩ :: rest)
      else r :: merged (s :: rest)
termination_by rs => rs.length

/-- The positions that ranges leave out. -/
def complement (from_ : Nat) : List Range → List Range
  | [] => [⟨from_, none⟩]
  | r :: rest =>
    let before := if from_ < r.first then [⟨from_, some (r.first - 1)⟩] else []
    match r.last with
    | none => before
    | some e => before ++ complement (e + 1) rest

/-- What items lie in ranges, range by range. -/
def chosen {α : Type} (items : List α) (rs : List Range) : List (List α) :=
  (rs.map fun r =>
    let from_ := items.drop (r.first - 1)
    match r.last with
    | some e => from_.take (e + 1 - r.first)
    | none => from_).filter (!·.isEmpty)

/-- What is told of a fault. -/
def Fault.message (fields : Bool) : Fault → String
  | .zero => if fields then "fields are numbered from 1"
    else "byte/character positions are numbered from 1"
  | .decreasing => "invalid decreasing range"
  | .noEnds => "invalid range with no endpoint: -"
  | .malformed => if fields then "invalid field range" else "invalid byte or character range"
  | .noNumber text => (if fields then "invalid field value " else "invalid byte/character position ") ++
      marked text

end Range

/-- Write parts of lines. -/
def cutLines : Program :=
  withOptions ⟨['n', 's', 'z'], ['b', 'c', 'd', 'f', 'ω'],
      [("--bytes", 'b'), ("--characters", 'c'), ("--delimiter", 'd'), ("--fields", 'f'),
        ("--complement", 'κ'), ("--only-delimited", 's'), ("--output-delimiter", 'ω'),
        ("--zero-terminated", 'z')], false⟩ 1
    fun p name g => do
      let lists := g.options.filter fun o => o.1 ∈ ['f', 'c', 'b']
      match lists with
      | [] => misuse p name "you must specify a list of bytes, characters, or fields" 1
      | _ :: _ :: _ => misuse p name "only one list may be specified" 1
      | [(kind, list)] =>
        let fields := kind = 'f'
        let delimiter := g.valueOf? 'd'
        if delimiter.any (1 < ·.length) then
          return ← misuse p name "the delimiter must be a single character" 1
        if !fields && delimiter.isSome then
          return ← misuse p name
            "an input delimiter may be specified only when operating on fields" 1
        if !fields && g.has 's' then
          return ← misuse p name
            "suppressing non-delimited lines makes sense\n\tonly when operating on fields" 1
        match Range.ofText list with
        | .error f => misuse p name (f.message fields) 1
        | .ok rs =>
          let rs := Range.merged rs
          let rs := if g.has 'κ' then Range.complement 1 rs else rs
          let separator := (delimiter.getD "\t").toList.headD '\x00'
          let glue := (g.valueOf? 'ω').map String.toList
          let lineEnd := lineEndFor (g.has 'z')
          let step (_ : Unit) (line : List Char) (_ : Bool) : Act (Bool × Unit) := do
            if fields then
              if !line.contains separator then
                if !g.has 's' then sayLine p line lineEnd
              else
                let parts := (Range.chosen (line.splitOn separator) rs).flatten
                sayLine p ((glue.getD [separator]).intercalate parts) lineEnd
            else
              sayLine p ((glue.getD []).intercalate (Range.chosen line rs)) lineEnd
            return (true, ())
          let fine ← eachFile (orInput g.operands) fun file => do
            match ← openSource p file with
            | .error e =>
              complain p name (shownIfNeeded file ++ ": " ++ e.text)
              return false
            | .ok index =>
              match ← eachLine index lineEnd step () with
              | .ok () => return true
              | .error e =>
                complain p name (shownIfNeeded file ++ ": " ++ e.text)
                return false
          return statusOf fine

/-- The delimiters that a list spells; a backslash with a zero stands for none. -/
def delimiters : List Char → List (List Char)
  | [] => []
  | '\\' :: c :: cs =>
    (match c with
      | '0' => []
      | 'b' => ['\x08']
      | 'f' => ['\x0c']
      | 'n' => ['\n']
      | 'r' => ['\r']
      | 't' => ['\t']
      | 'v' => ['\x0b']
      | c => [c]) :: delimiters cs
  | c :: cs => [c] :: delimiters cs

/-- Items with delimiters between them, which are used in turn. -/
def joinedBy (ds : List (List Char)) : Nat → List (List Char) → List Char
  | _, [] => []
  | _, [item] => item
  | n, item :: rest => item ++ ((ds[n % ds.length]?).getD []) ++ joinedBy ds (n + 1) rest

/-- Set the lines of open files side by side; `fuel` bounds their number. -/
def pasteRows (p : Process) (ds : List (List Char)) (lineEnd : Char) (indices : List Nat) :
    Nat → Act Unit
  | 0 => return
  | fuel + 1 => do
    let rows ← indices.mapM fun index => do
      return (← System.readLine index lineEnd.toNat.toUInt8).toOption.getD .empty
    if rows.all (·.isEmpty) then return
    let texts := rows.map fun bytes =>
      let cs := (ofBytes bytes).toList
      if cs.getLast? = some lineEnd then cs.dropLast else cs
    sayLine p (joinedBy ds 0 texts) lineEnd
    pasteRows p ds lineEnd indices fuel

/-- Set lines of files side by side, or the lines of every file in one line. -/
def paste : Program :=
  withOptions ⟨['s', 'z'], ['d'],
      [("--delimiters", 'd'), ("--serial", 's'), ("--zero-terminated", 'z')], false⟩ 1
    fun p name g => do
      let list := (g.valueOf? 'd').getD "\t"
      let slashes := (list.toList.reverse.takeWhile (· == '\\')).length
      if slashes % 2 = 1 then
        complain p name ("delimiter list ends with an unescaped backslash: " ++ list)
        return 1
      let ds := if list.isEmpty then [[]] else delimiters list.toList
      let lineEnd := lineEndFor (g.has 'z')
      if g.has 's' then
        let fine ← eachFile (orInput g.operands) fun file => do
          match ← openSource p file with
          | .error e =>
            complain p name (shownIfNeeded file ++ ": " ++ e.text)
            return false
          | .ok index =>
            match ← System.read index none with
            | .error e =>
              complain p name (shownIfNeeded file ++ ": " ++ e.text)
              return false
            | .ok bytes =>
              let cs := (ofBytes bytes).toList
              let cs := if cs.getLast? = some lineEnd then cs.dropLast else cs
              sayLine p (joinedBy ds 0 (cs.splitOn lineEnd)) lineEnd
              return true
        return statusOf fine
      else
        let mut indices : List Nat := []
        for file in orInput g.operands do
          match ← openSource p file with
          | .error e =>
            complain p name (shownIfNeeded file ++ ": " ++ e.text)
            return 1
          | .ok index => indices := indices ++ [index]
        pasteRows p ds lineEnd indices System.turnLimit
        return 0

/-- The column behind a character that starts at a column. -/
def columnAfter (bytes : Bool) (column : Nat) (c : Char) : Nat :=
  if bytes then column + 1
  else match c with
    | '\x08' => column - 1
    | '\r' => 0
    | '\t' => column + 8 - column % 8
    | _ => column + 1

/-- Whether a character is a blank. -/
def isBlankChar (c : Char) : Bool := c == ' ' || c == '\t'

/-- The pieces of a line that are no wider than asked. `piece` holds what is in the current
    one, the last character first; `fuel` bounds how often a character is looked at. -/
def foldPieces (bytes spaces : Bool) (width : Nat) :
    Nat → Nat → List Char → List Char → List (List Char)
  | 0, _, piece, cs => [piece.reverse ++ cs]
  | _ + 1, _, piece, [] => [piece.reverse]
  | fuel + 1, column, piece, c :: cs =>
    let next := columnAfter bytes column c
    if next ≤ width then foldPieces bytes spaces width fuel next (c :: piece) cs
    else
      let tail := piece.takeWhile (!isBlankChar ·)
      if spaces && tail.length < piece.length then
        let start := piece.drop tail.length
        let column := tail.reverse.foldl (columnAfter bytes) 0
        start.reverse :: foldPieces bytes spaces width fuel column tail (c :: cs)
      else if piece.isEmpty then foldPieces bytes spaces width fuel next [c] cs
      else piece.reverse :: foldPieces bytes spaces width fuel 0 [] (c :: cs)

/-- Fold lines that are too wide. -/
def fold : Program := fun p arguments =>
  let arguments := arguments.map fun a =>
    match a.toList with
    | '-' :: c :: cs => if (c :: cs).all Char.isDigit then "-w" ++ String.ofList (c :: cs) else a
    | _ => a
  withOptions ⟨['b', 's'], ['w'], [("--bytes", 'b'), ("--spaces", 's'), ("--width", 'w')], false⟩ 1
    (fun p name g => do
      let value := (g.valueOf? 'w').getD "80"
      match number? value with
      | none | some 0 =>
        complain p name ("invalid number of columns: " ++ marked value)
        return 1
      | some width =>
        let fine ← eachFile (orInput g.operands) fun file => do
          match ← openSource p file with
          | .error e =>
            complain p name (shownIfNeeded file ++ ": " ++ e.text)
            return false
          | .ok index =>
            let result ← eachLine index '\n' (fun () line ended => do
              let pieces := foldPieces (g.has 'b') (g.has 's') width (3 * line.length + 3) 0 [] line
              p.say (String.ofList (['\n'].intercalate pieces ++ if ended then ['\n'] else []))
              return (true, ())) ()
            match result with
            | .ok () => return true
            | .error e =>
              complain p name (shownIfNeeded file ++ ": " ++ e.text)
              return false
        return statusOf fine) p arguments

/-- Where tabs lead: to multiples of a width behind single stops. -/
structure TabStops where
  stops : List Nat
  width : Option Nat

namespace TabStops

/-- The stops that a list spells. -/
def ofText? (text : String) : Option TabStops := do
  let parts := ((text.toList.map fun c => if c = ' ' then ',' else c).splitOn ',').filter (· ≠ [])
  let numbers ← parts.mapM fun cs =>
    match cs with
    | '/' :: ds | '+' :: ds => number? (String.ofList ds)
    | ds => number? (String.ofList ds)
  let isLast := (parts.getLast?).any fun cs => cs.head? = some '/' || cs.head? = some '+'
  match numbers with
  | [n] => some ⟨[], some n⟩
  | ns => if isLast then some ⟨ns.dropLast, ns.getLast?⟩ else some ⟨ns, none⟩

/-- The next stop behind a column, and whether there is one. -/
def after (t : TabStops) (column : Nat) : Option Nat :=
  match t.stops.find? (column < ·), t.width with
  | some stop, _ => some stop
  | none, some width => if width = 0 then none else some (column + width - column % width)
  | none, none => none

end TabStops

/-- A line with blanks in place of tabs. -/
def expandLine (stops : TabStops) (initial : Bool) : Nat → Bool → List Char → List Char
  | _, _, [] => []
  | column, starting, c :: cs =>
    let converts := starting || !initial
    match c with
    | '\t' =>
      if converts then
        let next := (stops.after column).getD (column + 1)
        List.replicate (next - column) ' ' ++ expandLine stops initial next starting cs
      else '\t' :: expandLine stops initial column starting cs
    | '\x08' => '\x08' :: expandLine stops initial (column - 1) (starting && !initial) cs
    | c => c :: expandLine stops initial (column + 1) (starting && c = ' ') cs

/-- The blanks between two columns, with tabs where that is shorter; `fuel` bounds the
    number of stops. -/
def tabbed (stops : TabStops) : Nat → Nat → Nat → List Char
  | 0, column, target => List.replicate (target - column) ' '
  | fuel + 1, column, target =>
    match stops.after column with
    | some next =>
      if next ≤ target then
        (if next = column + 1 && next = target then ' ' else '\t') :: tabbed stops fuel next target
      else List.replicate (target - column) ' '
    | none => List.replicate (target - column) ' '

/-- A line with tabs in place of blanks. -/
def unexpandLine (stops : TabStops) (all : Bool) : Nat → Nat → List Char → List Char
  | 0, _, cs => cs
  | _ + 1, _, [] => []
  | fuel + 1, column, cs =>
    let blanks := cs.takeWhile isBlankChar
    let rest := cs.drop blanks.length
    let target := blanks.foldl (fun n c =>
      if c = '\t' then (stops.after n).getD (n + 1) else n + 1) column
    let start := if blanks.length = 1 && blanks = [' '] then blanks
      else tabbed stops (blanks.length * 8 + 1) column target
    let text := rest.takeWhile (!isBlankChar ·)
    let after := rest.drop text.length
    if all then start ++ text ++ unexpandLine stops all fuel (target + text.length) after
    else start ++ rest

/-- Change every line of files. -/
def mapLines (p : Process) (name : String) (files : List String) (f : List Char → List Char) :
    Act Nat := do
  let fine ← eachFile (orInput files) fun file => do
    match ← openSource p file with
    | .error e =>
      complain p name (shownIfNeeded file ++ ": " ++ e.text)
      return false
    | .ok index =>
      let result ← eachLine index '\n' (fun () line ended => do
        p.say (String.ofList (f line ++ if ended then ['\n'] else []))
        return (true, ())) ()
      match result with
      | .ok () => return true
      | .error e =>
        complain p name (shownIfNeeded file ++ ": " ++ e.text)
        return false
  return statusOf fine

/-- Write blanks in place of tabs. -/
def expand : Program :=
  withOptions ⟨['i'], ['t'], [("--initial", 'i'), ("--tabs", 't')], false⟩ 1 fun p name g => do
    match TabStops.ofText? ((g.valueOf? 't').getD "8") with
    | none =>
      complain p name ("tab size contains invalid character(s): " ++ marked ((g.valueOf? 't').getD ""))
      return 1
    | some stops => mapLines p name g.operands (expandLine stops (g.has 'i') 0 true)

/-- Write tabs in place of blanks. -/
def unexpand : Program :=
  withOptions ⟨['a'], ['t'], [("--all", 'a'), ("--tabs", 't'), ("--first-only", 'φ')], false⟩ 1
    fun p name g => do
      match TabStops.ofText? ((g.valueOf? 't').getD "8") with
      | none =>
        complain p name ("tab size contains invalid character(s): " ++ marked ((g.valueOf? 't').getD ""))
        return 1
      | some stops =>
        let all := (g.has 'a' || g.has 't') && !g.has 'φ'
        mapLines p name g.operands fun line => unexpandLine stops all (line.length + 1) 0 line

example : Range.merged [⟨1, some 3⟩, ⟨2, some 5⟩, ⟨7, none⟩] = [⟨1, some 5⟩, ⟨7, none⟩] := by
  simp [Range.merged]

end CompileTree.Shell.Utility
