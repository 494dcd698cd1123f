import CompileTree.Shell.Utility.Dates
import CompileTree.Shell.Utility.Places
import CompileTree.Shell.Utility.Walking
import CompileTree.Text.Difference

/-! # Utilities for differences

Files and directories are compared line by line, and files byte by byte. Changes are
written in one of several forms.
-/

namespace CompileTree.Shell.Utility

open Files Text Difference

/-- The forms in which changes are written. -/
inductive ChangeForm where
  | normal
  | unified (context : Nat)
  | context (context : Nat)
  /-- As commands of an editor, the last one first. -/
  | commands
  /-- As counted commands. -/
  | counted
  /-- Next to each other, with a width. -/
  | columns (width : Nat)
  /-- Only whether there are any. -/
  | brief
  deriving DecidableEq, Repr

/-- How files are compared. -/
structure Comparing where
  form : ChangeForm
  ignoresCase : Bool
  /-- Whether blanks do not count: none of them, how many there are, those at the end. -/
  ignoresBlanks : Bool
  ignoresBlankSizes : Bool
  ignoresLastBlanks : Bool
  ignoresBlankLines : Bool
  isText : Bool
  tellsSame : Bool
  recursive : Bool
  absentIsEmpty : Bool
  labels : List String
  excluded : List String
  /-- What stands before the lines that are written in the plain form. -/
  margin : String
  leftOnly : Bool
  changedOnly : Bool
  /-- The options as they were given. -/
  spelled : String

/-- A text to be compared: its lines, and whether the last one has an end. -/
structure Compared where
  name : String
  lines : Array String
  ended : Bool
  time : Int

namespace Compared

/-- The lines of a text. -/
def ofText (name text : String) (time : Int) : Compared :=
  ⟨name, (linesOf text).toArray, text.isEmpty || text.endsWith "\n", time⟩

/-- A line as it is written, with a remark if its end is missing. -/
def line (t : Compared) (i : Nat) : String :=
  let text := t.lines[i]?.getD ""
  if i + 1 = t.lines.size && !t.ended then text ++ "\n\\ No newline at end of file\n" else text ++ "\n"

end Compared

/-- What counts of a line. -/
def Comparing.keyOf (c : Comparing) (line : String) (ended : Bool) : String :=
  let cs := line.toList
  let isBlank (c : Char) : Bool := c == ' ' || ('\t' ≤ c && c ≤ '\r')
  let rec squeeze : List Char → List Char
    | a :: b :: rest =>
      if isBlank a && isBlank b then squeeze (b :: rest)
      else (if isBlank a then ' ' else a) :: squeeze (b :: rest)
    | [a] => if isBlank a then [] else [a]
    | [] => []
  let cs := if c.ignoresBlanks then cs.filter (!isBlank ·)
    else if c.ignoresBlankSizes then squeeze cs
    else if c.ignoresLastBlanks then (cs.reverse.dropWhile isBlank).reverse
    else cs
  let cs := if c.ignoresCase then cs.map Char.toLower else cs
  let loose := c.ignoresBlanks || c.ignoresBlankSizes || c.ignoresLastBlanks
  String.ofList (if ended || loose then cs ++ ['\n'] else cs)

/-- The changes from one text to another. -/
def Comparing.changes (c : Comparing) (a b : Compared) : List Change :=
  let keys (t : Compared) : List String :=
    t.lines.toList.zipIdx.map fun (line, i) => c.keyOf line (i + 1 < t.lines.size || t.ended)
  let (x, y) := classes (keys a) (keys b)
  let horizon := match c.form with
    | .unified n | .context n => n
    | _ => 0
  Difference.changes horizon x y

/-- Whether a change concerns empty lines only. -/
def concernsNothing (a b : Compared) (c : Change) : Bool :=
  let empty (t : Compared) (start count : Nat) : Bool :=
    (List.range count).all fun i => (t.lines[start + i]?).any (·.isEmpty)
  empty a c.first c.removed && empty b c.second c.added

/-- The lines of a range with something before each of them. -/
def marks (t : Compared) (mark : String) (start count : Nat) : String :=
  String.join ((List.range count).map fun i => mark ++ t.line (start + i))

/-- A range of lines as it is written in the plain form, counted from one. -/
def rangeText (start count : Nat) : String :=
  if count ≤ 1 then toString (start + count) else toString (start + 1) ++ "," ++ toString (start + count)

/-- A change in the plain form. -/
def Comparing.plainText (c : Comparing) (a b : Compared) (ch : Change) : String :=
  let letter := if ch.removed = 0 then "a" else if ch.added = 0 then "d" else "c"
  rangeText ch.first ch.removed ++ letter ++ rangeText ch.second ch.added ++ "\n" ++
    marks a ("<" ++ c.margin) ch.first ch.removed ++ (if letter = "c" then "---\n" else "") ++
    marks b (">" ++ c.margin) ch.second ch.added

/-- Changes in groups, between which there are more lines than are shown around them. -/
def changeGroups (context : Nat) : List Change → List (List Change)
  | [] => []
  | c :: rest =>
    match changeGroups context rest, rest with
    | group :: others, next :: _ =>
      if next.first - (c.first + c.removed) ≤ 2 * context then (c :: group) :: others
      else [c] :: group :: others
    | _, _ => [[c]]

/-- The ranges of two texts that a group of changes is shown in: their starts and ends. -/
def shownRange (context : Nat) (a : Compared) (group : List Change) : Nat × Nat × Nat × Nat :=
  let first := group.headD ⟨0, 0, 0, 0⟩
  let last := group.getLastD first
  let before := min context first.first
  let stop := last.first + last.removed
  let after := min context (a.lines.size - stop)
  (first.first - before, stop + after, first.second - before, last.second + last.added + after)

/-- A group of changes with the lines around them, each line with a sign. -/
def unifiedText (context : Nat) (a b : Compared) (group : List Change) : String :=
  let (start, stop, otherStart, otherStop) := shownRange context a group
  let range (start stop : Nat) : String :=
    if stop = start + 1 then toString stop
    else if stop = start then toString start ++ ",0"
    else toString (start + 1) ++ "," ++ toString (stop - start)
  let (body, at_) := group.foldl (fun (text, i) ch =>
    (text ++ marks a " " i (ch.first - i) ++ marks a "-" ch.first ch.removed ++
      marks b "+" ch.second ch.added, ch.first + ch.removed)) ("", start)
  "@@ -" ++ range start stop ++ " +" ++ range otherStart otherStop ++ " @@\n" ++ body ++
    marks a " " at_ (stop - at_)

/-- A group of changes with the lines around them, one text after the other. -/
def contextText (context : Nat) (a b : Compared) (group : List Change) : String :=
  let (start, stop, otherStart, otherStop) := shownRange context a group
  let range (start stop : Nat) : String :=
    if stop ≤ start + 1 then toString stop else toString (start + 1) ++ "," ++ toString stop
  let side (t : Compared) (mark : String) (place : Change → Nat × Nat) (start stop : Nat) : String :=
    if group.all fun ch => (place ch).2 == 0 then ""
    else
      let (body, at_) := group.foldl (fun (text, i) ch =>
        let (first, count) := place ch
        let mark := if ch.removed ≠ 0 ∧ ch.added ≠ 0 then "! " else mark
        (text ++ marks t "  " i (first - i) ++ marks t mark first count, first + count)) ("", start)
      body ++ marks t "  " at_ (stop - at_)
  "***************\n*** " ++ range start stop ++ " ****\n" ++
    side a "- " (fun ch => (ch.first, ch.removed)) start stop ++
    "--- " ++ range otherStart otherStop ++ " ----\n" ++
    side b "+ " (fun ch => (ch.second, ch.added)) otherStart otherStop

/-- Changes as commands of an editor. -/
def commandsText (b : Compared) (changes : List Change) : String :=
  let one (ch : Change) : String :=
    let letter := if ch.removed = 0 then "a" else if ch.added = 0 then "d" else "c"
    let lines := (List.range ch.added).map fun i => (b.lines[ch.second + i]?.getD "") ++ "\n"
    rangeText ch.first ch.removed ++ letter ++ "\n" ++
      (if ch.added = 0 then "" else String.join lines ++ ".\n")
  String.join (changes.reverse.map one)

/-- Changes as counted commands. -/
def countedText (b : Compared) (changes : List Change) : String :=
  let one (ch : Change) : String :=
    (if ch.removed = 0 then "" else "d" ++ toString (ch.first + 1) ++ " " ++ toString ch.removed ++ "\n") ++
      (if ch.added = 0 then ""
      else "a" ++ toString (ch.first + ch.removed) ++ " " ++ toString ch.added ++ "\n" ++
        String.join ((List.range ch.added).map fun i =>
          let j := ch.second + i
          (b.lines[j]?.getD "") ++ (if j + 1 = b.lines.size && !b.ended then "" else "\n")))
  String.join (changes.map one)

/-- Tabs and blanks that lead from one column to another. -/
def gapText (start stop : Nat) : String :=
  let tabs := stop / 8 - start / 8
  if tabs = 0 then "".pushn ' ' (stop - start)
  else "".pushn '\t' tabs ++ "".pushn ' ' (stop % 8)

/-- As much of a line as fits into some columns, with the column that it ends at. -/
def halfLine (bound column : Nat) (line : String) : String × Nat :=
  let step (st : List Char × Nat × Nat) (c : Char) : List Char × Nat × Nat :=
    let (out, inner, outer) := st
    if c = '\t' then
      let next := inner + (8 - inner % 8)
      if inner = outer ∧ next < bound then ('\t' :: out, next, next) else (out, next, outer)
    else if inner < bound then (c :: out, inner + 1, inner + 1)
    else (out, inner + 1, outer)
  let (out, _, outer) := line.toList.foldl step ([], 0, 0)
  (String.ofList out.reverse, column + outer)

/-- Two lines next to each other with a sign in between. -/
def besideText (width : Nat) (a : Option String) (sign : Char) (b : Option String)
    (ended : Bool) : String :=
  let unaligned := width / 2 + 5 + (if width % 2 = 1 then 1 else 0)
  let offset := unaligned - unaligned % 8
  let half := min (offset - 3) (width - offset)
  let second := if half = 0 then width else offset
  let (left, column) := match a with
    | some line => halfLine half 0 line
    | none => ("", 0)
  let (middle, column) := if sign = ' ' then ("", column)
    else
      let at_ := (half + second - 1) / 2
      (gapText column at_ ++ String.singleton sign, at_ + 1)
  let right := match b with
    | some "" | none => ""
    | some line => gapText column second ++ (halfLine half second line).1
  left ++ middle ++ right ++ (if ended then "\n" else "")

/-- Texts next to each other. -/
def Comparing.columnsText (c : Comparing) (width : Nat) (a b : Compared) (changes : List Change) : String :=
  let hasEnd (t : Compared) (i : Option Nat) : Bool := i.all fun i => i + 1 < t.lines.size || t.ended
  let same (start other count : Nat) : String :=
    if c.changedOnly then ""
    else String.join ((List.range count).map fun i =>
      let ended := hasEnd a (some (start + i))
      if c.leftOnly then besideText width a.lines[start + i]? '(' none ended
      else besideText width a.lines[start + i]? ' ' b.lines[other + i]? ended)
  let differing (ch : Change) : String :=
    String.join ((List.range (max ch.removed ch.added)).map fun i =>
      let x := if i < ch.removed then some (ch.first + i) else none
      let y := if i < ch.added then some (ch.second + i) else none
      let sign := if y.isNone then '<' else if x.isNone then '>'
        else if hasEnd a x == hasEnd b y then '|' else if hasEnd a x then '/' else '\\'
      let ended := (x.isSome && hasEnd a x) || (y.isSome && hasEnd b y)
      besideText width (x.bind (a.lines[·]?)) sign (y.bind (b.lines[·]?)) ended)
  let (text, i, j) := changes.foldl (fun (text, i, j) ch =>
    (text ++ same i j (ch.first - i) ++ differing ch, ch.first + ch.removed, ch.second + ch.added))
    ("", 0, 0)
  text ++ same i j (a.lines.size - i)

/-- A time as it stands behind the names of files. -/
def stampText (form : ChangeForm) (time : Int) : String :=
  let m := Moment.ofTime time
  match form with
  | .context _ => m.format "%a %b %e %H:%M:%S %Y"
  | _ => m.format "%Y-%m-%d %H:%M:%S.%N +0000"

/-- What is written about two texts and the changes between them. -/
def Comparing.report (c : Comparing) (a b : Compared) (changes : List Change) : String :=
  let heading (first second : String) : String :=
    let line (mark : String) (t : Compared) (label : Option String) : String :=
      mark ++ " " ++ label.getD (t.name ++ "\t" ++ stampText c.form t.time) ++ "\n"
    line first a c.labels[0]? ++ line second b c.labels[1]?
  match c.form with
  | .normal =>
    String.join ((changes.filter fun ch => !(c.ignoresBlankLines && concernsNothing a b ch)).map
      (c.plainText a b))
  | .unified n => heading "---" "+++" ++ String.join ((changeGroups n changes).map (unifiedText n a b))
  | .context n => heading "***" "---" ++ String.join ((changeGroups n changes).map (contextText n a b))
  | .commands => commandsText b changes
  | .counted => countedText b changes
  | .columns width => c.columnsText width a b changes
  | .brief => ""

/-- Something that is compared: a path with what stands there, which may be nothing. -/
structure Operand where
  path : String
  place : Option (Location × Entry)

/-- What stands at a path. -/
def Operand.at_ (p : Process) (path : String) : Act Operand := do
  if path = "-" then return ⟨path, some (["-"], .device .nothing)⟩
  return ⟨path, (← found p true path).toOption⟩

/-- The text of an operand. -/
def Operand.read (p : Process) (o : Operand) : Act (Except Error Compared) := do
  match o.place with
  | none => return .ok (Compared.ofText o.path "" 0)
  | some (l, _) =>
    match ← content p o.path with
    | .error e => return .error e
    | .ok text => return .ok (Compared.ofText o.path text ((← get).files.attributesAt l).time)

/-- Compare two operands that are no directories. `heads` is whether a line tells of which
    files changes are. -/
def Comparing.files (c : Comparing) (p : Process) (name : String) (heads : Bool) (x y : Operand) :
    Act Nat := do
  let same := match x.place, y.place with
    | some (l, _), some (k, _) => l == k
    | _, _ => false
  let tellSame : Act Nat := do
    if c.tellsSame then p.say ("Files " ++ x.path ++ " and " ++ y.path ++ " are identical\n")
    return 0
  if same then return ← tellSame
  match ← x.read p, ← y.read p with
  | .error e, other =>
    complain p name (x.path ++ ": " ++ e.text)
    if let .error e := other then complain p name (y.path ++ ": " ++ e.text)
    return 2
  | .ok _, .error e =>
    complain p name (y.path ++ ": " ++ e.text)
    return 2
  | .ok a, .ok b =>
    let isBinary (t : Compared) : Bool := !c.isText && t.lines.any (·.contains '\x00')
    if isBinary a || isBinary b then
      if a.lines == b.lines && a.ended == b.ended then return ← tellSame
      let kind := if c.form = .brief then "Files " else "Binary files "
      p.say (kind ++ a.name ++ " and " ++ b.name ++ " differ\n")
      return if c.form = .brief then 1 else 2
    let changes := c.changes a b
    let counts := changes.any fun ch => !(c.ignoresBlankLines && concernsNothing a b ch)
    if let .columns _ := c.form then p.say (c.report a b changes)
    if !counts then return ← tellSame
    match c.form with
    | .brief => p.say ("Files " ++ a.name ++ " and " ++ b.name ++ " differ\n")
    | .columns _ => pure ()
    | _ =>
      if heads then p.say (name ++ c.spelled ++ " " ++ shownIfNeeded a.name ++ " " ++ shownIfNeeded b.name ++ "\n")
      p.say (c.report a b changes)
      if c.form = .commands then
        for t in [a, b] do
          if !t.ended then complain p name (t.name ++ ": No newline at end of file\n")
    return 1

/-- Compare two operands; `fuel` bounds how deep directories stand in each other. -/
def Comparing.operands (c : Comparing) (p : Process) (name : String) :
    Nat → Bool → Operand → Operand → Act Nat
  | 0, _, _, _ => return 2
  | fuel + 1, inner, x, y => do
    let directory (o : Operand) : Bool := o.place.any fun (_, e) => isDirectoryEntry e
    match x.place, y.place with
    | some (l, .directory), some (k, .directory) =>
      if inner && !c.recursive then
        p.say ("Common subdirectories: " ++ x.path ++ " and " ++ y.path ++ "\n")
        return 0
      if l = k then return 0
      let t := (← get).files
      let namesIn (l : Location) : List String := (t.children l).map fun child => spread child.1
      let (here, there) := (namesIn l, namesIn k)
      let all := ((here ++ there.filter (!here.contains ·)).filter fun n =>
        !c.excluded.any (matchesName · n)).mergeSort fun a b => !(b < a)
      let mut status := 0
      for n in all do
        let one (directory : Operand) (has : Bool) : Act Operand :=
          if has then Operand.at_ p (inside directory.path n)
          else return ⟨inside directory.path n, none⟩
        let a ← one x (here.contains n)
        let b ← one y (there.contains n)
        let lone := if here.contains n then x.path else y.path
        if here.contains n && there.contains n then
          status := max status (← operands c p name fuel true a b)
        else if c.absentIsEmpty && !(directory a || directory b) then
          status := max status (← c.files p name true a b)
        else if c.absentIsEmpty && c.recursive then
          let empty (o : Operand) : Operand :=
            if o.place.isNone then { o with place := some (["\x00", o.path], .directory) } else o
          status := max status (← operands c p name fuel true (empty a) (empty b))
        else
          p.say ("Only in " ++ lone ++ ": " ++ n ++ "\n")
          status := max status 1
      return status
    | some (l, _), some (k, _) =>
      if directory x != directory y then
        let kind (o : Operand) (l : Location) (t : Tree) : String :=
          if o.path = "-" then "fifo" else
            match t.get? l with
            | some .directory => "directory"
            | some (.device (.queue _)) => "fifo"
            | some (.device _) => "character special file"
            | some (.file bytes _) => if bytes.isEmpty then "regular empty file" else "regular file"
            | _ => "regular file"
        let t := (← get).files
        p.say ("File " ++ x.path ++ " is a " ++ kind x l t ++ " while file " ++ y.path ++ " is a " ++
          kind y k t ++ "\n")
        return 1
      c.files p name inner x y
    | _, _ => c.files p name inner x y

/-- The form that options ask for, if what they ask for can be. -/
def changeForm (g : Given) : Except String ChangeForm := do
  let digits := String.ofList ((g.options.filter fun o => o.1.isDigit).map (·.1))
  let size (given : Option String) : Except String Nat :=
    match given.filter (· ≠ ""), digits with
    | some text, _ =>
      match number? text with
      | some n => .ok n
      | none => .error ("invalid context length '" ++ text ++ "'")
    | none, "" => .ok 3
    | none, digits => .ok ((number? digits).getD 3)
  let width := ((g.valueOf? 'W').bind number?).getD 130
  if g.has 'q' then return .brief
  match (g.options.filter fun o => o.1 ∈ ['u', 'U', 'c', 'C', 'e', 'n', 'y', 'ν']).getLast? with
  | some ('u', v) | some ('U', v) => return .unified (← size (some v))
  | some ('c', v) | some ('C', v) => return .context (← size (some v))
  | some ('e', _) => return .commands
  | some ('n', _) => return .counted
  | some ('y', _) => return .columns width
  | _ => return .normal

/-- Write the differences between files. -/
def diff : Program := fun p arguments => do
  let name := arguments.headD ""
  let allowed : Allowed := ⟨['a', 'b', 'B', 'c', 'd', 'e', 'E', 'i', 'l', 'n', 'N', 'p', 'P', 'q', 'r', 's', 't',
      'T', 'u', 'w', 'y', 'Z', '0', '1', '2', '3', '4', '5', '6', '7', '8', '9'],
    ['C', 'U', 'L', 'x', 'I', 'F', 'W', 'D', 'S', 'X', 'κ'],
    [("--brief", 'q'), ("--unified?", 'u'), ("--context?", 'c'), ("--normal", 'ν'),
      ("--ed", 'e'), ("--rcs", 'n'), ("--side-by-side", 'y'), ("--ignore-case", 'i'),
      ("--ignore-all-space", 'w'), ("--ignore-space-change", 'b'),
      ("--ignore-trailing-space", 'Z'), ("--ignore-blank-lines", 'B'), ("--text", 'a'),
      ("--report-identical-files", 's'), ("--recursive", 'r'), ("--new-file", 'N'),
      ("--label", 'L'), ("--exclude", 'x'), ("--initial-tab", 'T'), ("--width", 'W'),
      ("--left-column", 'λ'), ("--suppress-common-lines", 'σ'), ("--minimal", 'd'),
      ("--ignore-tab-expansion", 'E'), ("--expand-tabs", 't'), ("--show-c-function", 'p'),
      ("--color?", 'χ'), ("--strip-trailing-cr", 'ρ'), ("--speed-large-files", 'H'),
      ("--no-dereference", 'δ'), ("--horizon-lines", 'κ')], false⟩
  let refuse (text : String) : Act Nat := do
    complain p name text
    p.complain (name ++ ": Try '" ++ name ++ " --help' for more information.")
    return 2
  match allowed.separate (arguments.drop 1) with
  | .error text => refuse text
  | .ok g =>
    match changeForm g with
    | .error text => refuse text
    | .ok form =>
      let options := (arguments.drop 1).filter fun a => a.startsWith "-" && a ≠ "-" && a ≠ "--"
      let c : Comparing := {
        form, ignoresCase := g.has 'i', ignoresBlanks := g.has 'w', ignoresBlankSizes := g.has 'b'
        ignoresLastBlanks := g.has 'Z', ignoresBlankLines := g.has 'B', isText := g.has 'a'
        tellsSame := g.has 's', recursive := g.has 'r', absentIsEmpty := g.has 'N' || g.has 'P'
        labels := (g.options.filter (·.1 == 'L')).map (·.2)
        excluded := (g.options.filter (·.1 == 'x')).map (·.2)
        margin := if g.has 'T' then "\t" else " ", leftOnly := g.has 'λ', changedOnly := g.has 'σ'
        spelled := String.join (options.map fun a => " " ++ shownIfNeeded a) }
      match g.operands with
      | [] => refuse ("missing operand after '" ++ arguments.getLastD name ++ "'")
      | [only] => refuse ("missing operand after '" ++ only ++ "'")
      | [x, y] =>
        let x ← Operand.at_ p x
        let y ← Operand.at_ p y
        let directory (o : Operand) : Bool := o.place.any fun (_, e) => isDirectoryEntry e
        if directory x != directory y && (x.path = "-" || y.path = "-") then
          complain p name "cannot compare '-' to a directory"
          return 2
        let x' ← if directory x && !directory y && y.place.isSome then
            Operand.at_ p (inside x.path (lastName y.path)) else pure x
        let y' ← if directory y && !directory x && x.place.isSome then
            Operand.at_ p (inside y.path (lastName x.path)) else pure y
        let missing := [x', y'].filter fun o => o.place.isNone
        if !missing.isEmpty && !(c.absentIsEmpty && missing.length = 1) then
          for o in missing do
            complain p name (o.path ++ ": " ++ Error.notFound.text)
          return 2
        c.operands p name ((← get).files.entries.length + 2) false x' y'
      | _ :: _ :: extra :: _ => refuse ("extra operand '" ++ extra ++ "'")

/-- A byte as it is shown next to its number. -/
def byteText (b : UInt8) : String :=
  let n := b.toNat
  let rec low (n : Nat) : String :=
    if n < 32 then "^" ++ String.singleton (Char.ofNat (n + 64))
    else if n = 127 then "^?"
    else String.singleton (Char.ofNat n)
  if 128 ≤ n then "M-" ++ low (n - 128) else low n

/-- A byte in three octal digits, without zeros in front. -/
def octalByte (b : UInt8) : String :=
  let text := String.ofList (Nat.toDigits 8 b.toNat)
  "".pushn ' ' (3 - text.length) ++ text

/-- Compare two files byte by byte. -/
def cmp : Program := fun p arguments => do
  let name := arguments.headD ""
  let refuse (text : String) : Act Nat := do
    complain p name text
    p.complain (name ++ ": Try '" ++ name ++ " --help' for more information.")
    return 2
  let allowed : Allowed := ⟨['b', 'c', 'l', 's'], ['i', 'n'],
    [("--print-bytes", 'b'), ("--verbose", 'l'), ("--quiet", 's'), ("--silent", 's'),
      ("--bytes", 'n'), ("--ignore-initial", 'i')], false⟩
  match allowed.separate (arguments.drop 1) with
  | .error text => refuse text
  | .ok g =>
    match g.operands with
    | [] => refuse ("missing operand after '" ++ arguments.getLastD name ++ "'")
    | first :: rest =>
      let second := rest.headD "-"
      let skips := (((g.valueOf? 'i').map fun v => v.splitOn ":").getD []) ++ rest.drop 1
      match (skips.find? fun v => (scaledSize? v).isNone),
          ((g.valueOf? 'n').filter fun v => (scaledSize? v).isNone) with
      | some bad, _ => refuse ("invalid --ignore-initial value '" ++ bad ++ "'")
      | none, some bad => refuse ("invalid --bytes value '" ++ bad ++ "'")
      | none, none =>
        if let extra :: _ := rest.drop 3 then return ← refuse ("extra operand '" ++ extra ++ "'")
        let skip (i : Nat) : Nat := ((skips[i]?.or skips.getLast?).bind scaledSize?).getD 0
        let limit := (g.valueOf? 'n').bind scaledSize?
        let mut texts : List ByteArray := []
        for (file, i) in [(first, 0), (second, 1)] do
          match ← content p file with
          | .error e =>
            if !g.has 's' then complain p name (file ++ ": " ++ e.text)
            return 2
          | .ok text =>
            let bytes := toBytes text
            let bytes := bytes.extract (skip i) bytes.size
            texts := texts ++ [(limit.map fun n => bytes.extract 0 n).getD bytes]
        compare p name g first second (texts.headD .empty) (texts.getLastD .empty)
where
  scaledSize? (v : String) : Option Nat :=
    let cs := v.toList
    let digits := cs.takeWhile Char.isDigit
    if digits.isEmpty then none
    else match cs.drop digits.length with
      | [] => some (Nat.ofDigitChars 10 digits 0)
      | ['k'] | ['K'] => some (Nat.ofDigitChars 10 digits 0 * 1024)
      | ['M'] => some (Nat.ofDigitChars 10 digits 0 * 1048576)
      | _ => none
  compare (p : Process) (name : String) (g : Given) (first second : String) (a b : ByteArray) :
      Act Nat := do
    let count := min a.size b.size
    let differing := (List.range count).filter fun i => a[i]? != b[i]?
    let width := (toString (max a.size b.size)).length
    if g.has 's' then return if differing.isEmpty && a.size = b.size then 0 else 1
    if g.has 'l' then
      for i in differing do
        let x := a[i]?.getD 0
        let y := b[i]?.getD 0
        let number := toString (i + 1)
        let shown := if g.has 'b' then
            let t := byteText x
            octalByte x ++ " " ++ t ++ "".pushn ' ' (4 - t.length) ++ " " ++ octalByte y ++ " " ++ byteText y
          else octalByte x ++ " " ++ octalByte y
        p.say ("".pushn ' ' (width - number.length) ++ number ++ " " ++ shown ++ "\n")
    else if let i :: _ := differing then
      let line := (a.extract 0 i).foldl (fun n c => if c = 10 then n + 1 else n) 1
      let x := a[i]?.getD 0
      let y := b[i]?.getD 0
      let bytes := if g.has 'b' then
          " is " ++ octalByte x ++ " " ++ byteText x ++ " " ++ octalByte y ++ " " ++ byteText y
        else ""
      let what := if g.has 'b' then "byte " else "char "
      p.say (first ++ " " ++ second ++ " differ: " ++ what ++ toString (i + 1) ++ ", line " ++
        toString line ++ bytes ++ "\n")
      return 1
    if a.size = b.size then return if differing.isEmpty then 0 else 1
    let (short, bytes) := if a.size < b.size then (first, a) else (second, b)
    let lines := bytes.foldl (fun n c => if c = 10 then n + 1 else n) 0
    let place := if bytes.isEmpty then " which is empty"
      else if g.has 'l' then " after byte " ++ toString bytes.size
      else if bytes.data.back? = some 10 then
        " after byte " ++ toString bytes.size ++ ", line " ++ toString lines
      else " after byte " ++ toString bytes.size ++ ", in line " ++ toString (lines + 1)
    p.complain (name ++ ": EOF on " ++ short ++ place)
    return 1

end CompileTree.Shell.Utility
