import CompileTree.Shell.Formatted
import CompileTree.Shell.Utility.Columns
import CompileTree.Shell.Utility.Orders
import CompileTree.Shell.Utility.Places

/-! # Utilities that list files

What stands in directories and what is kept of files is listed, and how much space they
take is summed up.
-/

namespace CompileTree.Shell.Utility

open Files Text

/-- How many bytes are set aside at once for what a file holds. -/
def spaceUnit : Nat := 4096

/-- The size of what stands at a place. -/
def sizeOf : Entry → Nat
  | .directory => spaceUnit
  | .file bytes _ => bytes.size
  | .link target => target.utf8ByteSize
  | .device _ => 0

/-- The space that what stands at a place takes, in units of 512 bytes. -/
def blocksOf : Entry → Nat
  | .directory => spaceUnit / 512
  | .file bytes _ => (bytes.size + spaceUnit - 1) / spaceUnit * (spaceUnit / 512)
  | _ => 0

/-- The letter for the kind of a file. -/
def kindLetter : Entry → Char
  | .directory => 'd'
  | .file .. => '-'
  | .link _ => 'l'
  | .device (.queue _) | .device (.stream _) => 'p'
  | .device _ => 'c'

/-- The bits for the kind of a file. -/
def kindBits : Entry → Nat
  | .directory => 0o040000
  | .file .. => 0o100000
  | .link _ => 0o120000
  | .device (.queue _) | .device (.stream _) => 0o010000
  | .device _ => 0o020000

/-- The two numbers of a device. -/
def deviceNumbers : Entry → Nat × Nat
  | .device .nothing => (1, 3)
  | .device .zeros => (1, 5)
  | .device .full => (1, 7)
  | .device .noise => (1, 9)
  | .device .absent => (5, 0)
  | _ => (0, 0)

/-- How many names a file has. -/
def nameCount (s : System) (l : Location) (e : Entry) : Nat :=
  match e with
  | .directory => 2 + ((s.files.children l).filter fun c => isDirectoryEntry c.2).length
  | _ => ((s.shared.find? (·.contains l)).map (·.length)).getD 1

/-- A number that a file has for itself. -/
def fileNumber (s : System) (l : Location) : Nat :=
  let first := ((s.shared.find? (·.contains l)).bind fun places =>
    s.files.entries.findIdx? fun e => places.contains e.1)
  let index := first.getD (s.files.entries.findIdx fun e => e.1 == l)
  if l.isEmpty then 2 else 1000 + index

/-- A size in the letters that multiply numbers, rounded up. -/
def humanSize (base n : Nat) : String :=
  let rec go : Nat → Nat → List Char → String
    | 0, _, _ | _, _, [] => toString n
    | fuel + 1, unit, letter :: letters =>
      if unit * base ≤ n && !letters.isEmpty then go fuel (unit * base) letters
      else
        let tenths := (10 * n + unit - 1) / unit
        if tenths < 100 then toString (tenths / 10) ++ "." ++ toString (tenths % 10) ++ String.singleton letter
        else
          let whole := (n + unit - 1) / unit
          if whole < base || letters.isEmpty then toString whole ++ String.singleton letter
          else "1.0" ++ (letters.head?.elim "" String.singleton)
  if n < base then toString n
  else go 12 base ((if base = 1000 then 'k' else 'K') :: multiplierLetters.drop 1)
where
  multiplierLetters : List Char := ['K', 'M', 'G', 'T', 'P', 'E', 'Z', 'Y']

/-- What is listed: a name, and the place that it stands for. -/
structure ListedItem where
  name : String
  location : Location
  entry : Entry

/-- How files are listed. -/
structure ListStyle where
  long : Bool
  owner : Bool
  group : Bool
  human : Bool
  marks : Bool
  slashes : Bool
  numbers : Bool
  blocks : Bool
  quotes : Bool
  time : String
  /-- Whether names stand next to each other: in columns, in rows, or behind commas. -/
  layout : Char
  width : Nat

/-- Whether a name starts with a dot. -/
def isHidden (name : String) : Bool := name.startsWith "."

/-- The mark that tells the kind of a file. -/
def ListStyle.mark (y : ListStyle) (e : Entry) : String :=
  match e with
  | .directory => if y.marks || y.slashes then "/" else ""
  | .link _ => if y.marks then "@" else ""
  | .file _ executable => if y.marks && executable then "*" else ""
  | .device (.queue _) => if y.marks then "|" else ""
  | .device _ => ""

/-- A name as it is listed, without its mark. -/
def ListStyle.shownName (y : ListStyle) (name : String) : String :=
  if y.quotes then
    "\"" ++ String.ofList (name.toList.flatMap fun c =>
      if c = '"' || c = '\\' then ['\\', c] else if isVisible c then [c] else '\\' :: escape c) ++ "\""
  else name

/-- The fields before the name of a file. -/
def ListStyle.fields (y : ListStyle) (s : System) (i : ListedItem) : List (Bool × String) :=
  let t := s.files
  let mode := t.modeAt i.location
  let size := match i.entry with
    | .device (.queue _) | .device (.stream _) => "0"
    | .device _ =>
      let (a, b) := deviceNumbers i.entry
      toString a ++ ", " ++ toString b
    | e => if y.human then humanSize 1024 (sizeOf e) else toString (sizeOf e)
  let half : Int := 15778476
  let now : Int := Tree.startTime + s.clock
  let time : Int := (t.attributesAt i.location).time
  let isRecent := now - half * 1000000000 < time && time ≤ now
  let format := if y.time = "" then (if isRecent then "%b %e %H:%M" else "%b %e  %Y") else y.time
  [(true, String.singleton (kindLetter i.entry) ++ Mode.letters mode),
    (false, toString (nameCount s i.location i.entry))] ++
    (if y.owner then [(true, "root")] else []) ++ (if y.group then [(true, "root")] else []) ++
    [(false, size), (true, (Moment.ofTime time).format format)]

/-- Texts in columns: the width of each column is that of its longest text. -/
def columnWidths (rows : List (List (Bool × String))) : List Nat :=
  rows.foldl (fun ws row =>
    let ns := row.map (·.2.length)
    (List.range (max ws.length ns.length)).map fun k => max (ws[k]?.getD 0) (ns[k]?.getD 0)) []

/-- How many columns names fill, with the widths of these; columns are two blanks apart. -/
def columnPlan (width : Nat) (byRows : Bool) (lengths : List Nat) : Nat × List Nat :=
  let count := lengths.length
  let plan (columns : Nat) : List Nat :=
    let rows := (count + columns - 1) / columns
    (List.range columns).map fun c =>
      let mine := lengths.zipIdx.filterMap fun (n, i) =>
        if (if byRows then i % columns else i / rows) = c then some n else none
      mine.foldl max 0 + (if c + 1 < columns then 2 else 0)
  let most := min count (max 1 (width / 3))
  let fits := ((List.range most).reverse.map (· + 1)).find? fun columns =>
    columns = 1 || ((plan columns).foldl (· + ·) 0 < width &&
      (byRows || (count + columns - 1) / columns * (columns - 1) < count))
  (fits.getD 1, plan (fits.getD 1))

/-- Blanks that lead from one column to another, with tabs where they reach. -/
def gapTo (start stop : Nat) : Nat → String
  | 0 => ""
  | fuel + 1 =>
    if stop ≤ start then ""
    else if start / 8 < stop / 8 && start + 1 < stop then
      "\t" ++ gapTo ((start / 8 + 1) * 8) stop fuel
    else " " ++ gapTo (start + 1) stop fuel

/-- Write names next to each other. -/
def sayColumns (p : Process) (width : Nat) (byRows : Bool) (names : List String) : Act Unit := do
  let (columns, widths) := columnPlan width byRows (names.map (·.length))
  let rows := (names.length + columns - 1) / columns
  for r in List.range rows do
    let row := (List.range columns).filterMap fun c =>
      let i := if byRows then r * columns + c else c * rows + r
      if byRows || c * rows + r < names.length then names[i]?.map (c, ·) else none
    let mut line := ""
    let mut place := 0
    for (c, name) in row do
      let start := (widths.take c).foldl (· + ·) 0
      line := line ++ gapTo place start (start + 1) ++ name
      place := start + name.length
    p.say (line ++ "\n")

/-- Write names behind each other, as many as there is room for in a line. -/
def sayCommas (p : Process) (width : Nat) (names : List String) : Act Unit := do
  let mut line := ""
  for (name, i) in names.zipIdx do
    let text := name ++ (if i + 1 < names.length then ", " else "")
    if line ≠ "" && width < line.length + name.length + (if i + 1 < names.length then 1 else 0) then
      p.say ((line.dropEnd 1).copy ++ "\n")
      line := text
    else line := line ++ text
  if line ≠ "" then p.say (line ++ "\n")

/-- Write some files. -/
def ListStyle.write (y : ListStyle) (p : Process) (items : List ListedItem) : Act Unit := do
  let s ← get
  let numbers := items.map fun i => toString (fileNumber s i.location)
  let blocks := items.map fun i =>
    if y.human then (let n := blocksOf i.entry * 512; if n = 0 then "0" else humanSize 1024 n)
    else toString (blocksOf i.entry / 2)
  let widest (all : List String) : Nat := (all.map (·.length)).foldl max 0
  let padded (width : Nat) (text : String) : String := "".pushn ' ' (width - text.length) ++ text
  let heads := (numbers.zip blocks).map fun (n, b) =>
    (if y.numbers then padded (widest numbers) n ++ " " else "") ++
      (if y.blocks then padded (widest blocks) b ++ " " else "")
  if y.long then
    let rows := items.map (y.fields s)
    let widths := columnWidths rows
    for ((item, row), head) in (items.zip rows).zip heads do
      let cells := (row.zip widths).map fun ((left, text), w) =>
        if left then text ++ "".pushn ' ' (w - text.length) else padded w text
      let arrow := match item.entry with
        | .link target =>
          let mark := ((s.files.entry item.location.dropLast true ⟨item.location.getLastD ""⟩).toOption.map
            fun (_, e) => y.mark e).getD ""
          " -> " ++ y.shownName (spread target) ++ (if y.marks then mark else "")
        | e => y.mark e
      p.say (head ++ " ".intercalate cells ++ " " ++ y.shownName item.name ++ arrow ++ "\n")
  else
    let names := (items.zip heads).map fun (i, head) => head ++ y.shownName i.name ++ y.mark i.entry
    match y.layout with
    | 'C' => sayColumns p y.width false names
    | 'x' => sayColumns p y.width true names
    | 'm' => sayCommas p y.width names
    | _ => for name in names do p.say (name ++ "\n")

/-- The order in which files are listed. -/
def listOrder (t : Tree) (g : Given) : ListedItem → ListedItem → Bool :=
  let word := match (g.options.filter fun o => o.1 ∈ ['t', 'S', 'X', 'v', 'U', 'f', 'ς']).getLast? with
    | some ('t', _) => "time"
    | some ('S', _) => "size"
    | some ('X', _) => "extension"
    | some ('v', _) => "version"
    | some ('ς', w) => w
    | some _ => "none"
    | none => "name"
  let byName (a b : ListedItem) : Ordering := compare a.name b.name
  let extension (name : String) : String :=
    let cs := name.toList.reverse
    let tail := cs.takeWhile (· ≠ '.')
    if tail.length = cs.length then "" else String.ofList ('.' :: tail.reverse)
  let order (a b : ListedItem) : Ordering :=
    match word with
    | "time" =>
      (compare (t.attributesAt b.location).time (t.attributesAt a.location).time).then (byName a b)
    | "size" => (compare (sizeOf b.entry) (sizeOf a.entry)).then (byName a b)
    | "extension" => (compare (extension a.name) (extension b.name)).then (byName a b)
    | "version" => (Order.version a.name.toList b.name.toList).then (byName a b)
    | "none" => .eq
    | _ => byName a b
  let grouped (a b : ListedItem) : Ordering :=
    if g.has 'γ' then compare (!isDirectoryEntry a.entry) (!isDirectoryEntry b.entry) else .eq
  let reversed (o : Ordering) : Ordering := if g.has 'r' then o.swap else o
  fun a b => (grouped a b).then (reversed (order a b)) != .gt

/-- List a directory, and those below it if asked; whether a title comes first, and whether
    it is the first that is written. -/
def listDirectory (p : Process) (g : Given) (y : ListStyle) (titled : Bool) :
    Nat → Bool → String → Location → Act Unit
  | 0, _, _, _ => return
  | fuel + 1, isFirst, path, l => do
    let t := (← get).files
    if titled then p.say ((if isFirst then "" else "\n") ++ path ++ ":\n")
    let valuesOf (letter : Char) := (g.options.filter (·.1 == letter)).map (·.2)
    let isShown (name : String) : Bool :=
      (g.has 'a' || g.has 'A' || g.has 'f' ||
          !(isHidden name || (valuesOf 'η').any (matchesName · name))) &&
        !(valuesOf 'I').any (matchesName · name) && !(g.has 'B' && name.endsWith "~")
    let inner := (t.children l).map fun (name, e) => ListedItem.mk (spread name) (l ++ [name]) e
    let own := if g.has 'a' || g.has 'f' then
        [ListedItem.mk "." l .directory, ListedItem.mk ".." l.dropLast .directory] else []
    let inner := (own ++ inner).filter fun i => i.name ∈ [".", ".."] || isShown i.name
    let inner := if g.has 'L' then inner.map fun i =>
        match i.entry, (t.entry l true ⟨gather i.name⟩).toOption with
        | .link _, some (k, e) => { i with location := k, entry := e }
        | _, _ => i
      else inner
    let sorted := inner.mergeSort (listOrder t g)
    if y.long || y.blocks then
      let total := (sorted.map fun i => blocksOf i.entry).foldl (· + ·) 0 / 2
      p.say ("total " ++ (if y.human && total ≠ 0 then humanSize 1024 (total * 1024) else toString total) ++ "\n")
    y.write p sorted
    if g.has 'R' then
      for i in sorted do
        if isDirectoryEntry i.entry && i.name ∉ [".", ".."] then
          listDirectory p g y titled fuel false (inside path i.name) i.location

/-- List directories. -/
def listFiles : Program :=
  withOptions ⟨['1', 'a', 'A', 'b', 'B', 'c', 'C', 'd', 'f', 'F', 'g', 'G', 'h', 'H', 'i', 'k', 'l', 'L',
      'm', 'n', 'N', 'o', 'p', 'q', 'Q', 'r', 'R', 's', 'S', 't', 'u', 'U', 'v', 'x', 'X', 'Z'],
      ['I', 'T', 'w', 'ς', 'η', 'τ', 'φ', 'δ', 'θ'],
      [("--all", 'a'), ("--almost-all", 'A'), ("--directory", 'd'), ("--recursive", 'R'),
        ("--reverse", 'r'), ("--classify?", 'F'), ("--no-group", 'G'), ("--human-readable", 'h'),
        ("--inode", 'i'), ("--size", 's'), ("--sort", 'ς'), ("--color?", 'κ'), ("--ignore", 'I'),
        ("--hide", 'η'), ("--group-directories-first", 'γ'), ("--time-style", 'τ'),
        ("--full-time", 'λ'), ("--format", 'φ'), ("--indicator-style", 'δ'), ("--file-type", 'p'),
        ("--dereference", 'L'), ("--quote-name", 'Q'), ("--literal", 'N'), ("--width", 'w'),
        ("--ignore-backups", 'B'), ("--numeric-uid-gid", 'n'), ("--escape", 'b'), ("--si", 'h'),
        ("--show-control-chars", 'N'), ("--hide-control-chars", 'q'), ("--time", 'θ'),
        ("--dereference-command-line", 'H'), ("--quoting-style", 'T'), ("--zero", '1'),
        ("--kibibytes", 'k'), ("--author", 'G')], false⟩
      2 fun p name g => do
    let format := match g.valueOf? 'φ' with
      | some "long" | some "verbose" => 'l'
      | some "commas" => 'm'
      | some "across" | some "horizontal" => 'x'
      | some "vertical" => 'C'
      | _ =>
        ((g.options.filter fun o => o.1 ∈ ['l', 'g', 'n', 'o', 'm', 'C', 'x', '1', 'λ']).getLast?.map
          (·.1)).getD '1'
    let long := format ∈ ['l', 'g', 'n', 'o', 'λ'] ||
      (format = '1' && g.options.any fun o => o.1 ∈ ['l', 'g', 'n', 'o', 'λ'])
    let y : ListStyle := {
      long, owner := !g.has 'g', group := !(g.has 'o' || g.has 'G'), human := g.has 'h'
      marks := g.has 'F' || g.valueOf? 'δ' == some "classify"
      slashes := g.has 'p' || (g.valueOf? 'δ').any (· ∈ ["slash", "file-type"])
      numbers := g.has 'i', blocks := g.has 's', quotes := g.has 'Q'
      time := if g.has 'λ' then "%Y-%m-%d %H:%M:%S.%N %z" else match g.valueOf? 'τ' with
        | some "full-iso" => "%Y-%m-%d %H:%M:%S.%N %z"
        | some "long-iso" => "%Y-%m-%d %H:%M"
        | some style => if style.startsWith "+" then (style.drop 1).copy else ""
        | none => ""
      layout := format
      width := ((g.valueOf? 'w').bind number?).getD (((p.valueOf? "COLUMNS").bind number?).getD 80) }
    let t := (← get).files
    let mut plain : List ListedItem := []
    let mut directories : List ListedItem := []
    let mut status := 0
    let followsArgument := g.has 'L' || g.has 'H' || !(long || g.has 'd' || g.has 'F')
    for path in if g.operands.isEmpty then ["."] else g.operands do
      let direct := t.entry p.working false (Process.path path)
      let target := t.entry p.working true (Process.path path)
      match (if followsArgument then target else direct) with
      | .ok (l, .directory) =>
        if g.has 'd' then plain := plain ++ [⟨path, l, .directory⟩]
        else directories := directories ++ [⟨path, l, .directory⟩]
      | .ok (l, e) =>
        if g.has 'L' then plain := plain ++ [⟨path, l, e⟩]
        else
          match direct with
          | .ok (k, f) => plain := plain ++ [⟨path, k, f⟩]
          | .error _ => plain := plain ++ [⟨path, l, e⟩]
      | .error e =>
        match direct with
        | .ok (l, e) => plain := plain ++ [⟨path, l, e⟩]
        | .error _ =>
          blame p name "cannot access" path e
          status := 2
    let order := listOrder t g
    y.write p (plain.mergeSort order)
    let titled := 1 < g.operands.length || g.has 'R'
    let mut isFirst := plain.isEmpty
    for d in directories.mergeSort order do
      listDirectory p g y titled (t.entries.length + 2) isFirst d.name d.location
      isFirst := false
    return status

/-- What a letter stands for when what is kept of a file is shown. -/
def statusText (s : System) (path : String) (l : Location) (e : Entry) (time : Bool) (c : Char) :
    String :=
  let t := s.files
  let mode := t.modeAt l
  let a := t.attributesAt l
  let seconds := toString (a.time / 1000000000)
  let full := (Moment.ofTime a.time).format "%Y-%m-%d %H:%M:%S.%N %z"
  let _ := time
  match c with
  | 'a' => Mode.octalText 1 mode
  | 'A' => String.singleton (kindLetter e) ++ Mode.letters mode
  | 'b' => toString (blocksOf e)
  | 'B' => "512"
  | 'd' => "65024"
  | 'D' => "fe00"
  | 'f' => String.ofList (hexDigits (kindBits e + mode))
  | 'F' =>
    match e with
    | .device (.queue _) | .device (.stream _) => "fifo"
    | _ => kindText t l
  | 'g' | 'u' => "0"
  | 'G' | 'U' => "root"
  | 'h' => toString (nameCount s l e)
  | 'i' => toString (fileNumber s l)
  | 'm' => if l.head? == some "dev" then "/dev" else if l.head? == some "proc" then "/proc" else "/"
  | 'n' => path
  | 'N' =>
    match e with
    | .link target => shown path ++ " -> " ++ shown (spread target)
    | _ => shown path
  | 'o' => toString spaceUnit
  | 's' => toString (sizeOf e)
  | 't' => String.ofList (hexDigits (deviceNumbers e).1)
  | 'T' => String.ofList (hexDigits (deviceNumbers e).2)
  | 'w' | 'x' | 'y' | 'z' => full
  | 'W' | 'X' | 'Y' | 'Z' => seconds
  | '%' => "%"
  | _ => "?"

/-- What is kept of a file as a format shows it; `fuel` bounds the length of the format. -/
def statusFormat (s : System) (path : String) (l : Location) (e : Entry) (escapes : Bool) :
    Nat → List Char → List Char
  | 0, _ | _, [] => []
  | fuel + 1, '\\' :: cs =>
    if escapes then
      let (c, rest) := Formatted.escape cs
      c :: statusFormat s path l e escapes fuel rest
    else '\\' :: statusFormat s path l e escapes fuel cs
  | fuel + 1, '%' :: cs =>
    match Formatted.directive ⟨[], [], false, [], false⟩ cs with
    | (some d, _, rest) =>
      let (letter, rest) := match d.letter, rest with
        | 'H', c :: rest => (if c = 'd' then 'd' else c, rest)
        | 'L', c :: rest => (if c = 'r' then 'T' else c, rest)
        | letter, rest => (letter, rest)
      let text := (statusText s path l e false letter).toList
      let isNumber := letter ∈ ['a', 'b', 'B', 'd', 'g', 'u', 'h', 'i', 'o', 's', 'W', 'X', 'Y', 'Z', 'f']
      let text := if letter = '%' then text
        else if isNumber then d.padded true [] text else d.showText text
      text ++ statusFormat s path l e escapes fuel rest
    | (none, _, _) => ['%']
  | fuel + 1, c :: cs => c :: statusFormat s path l e escapes fuel cs

/-- All that is told of a file if no format is given. -/
def fullStatus (e : Entry) : String :=
  let device := match e with
    | .device .nothing | .device .zeros | .device .full | .device .noise | .device .absent =>
      "Links: %-5h Device type: %t,%T\n"
    | _ => "Links: %h\n"
  "  File: " ++ (match e with
    | .link _ => "%N"
    | _ => "%n") ++ "\n  Size: %-10s\tBlocks: %-10b IO Block: %-6o %F\n" ++
    "Device: 254,0\tInode: %-11i " ++ device ++
    "Access: (%04a/%10.10A)  Uid: (%5u/%8U)   Gid: (%5g/%8G)\n" ++
    "Access: %x\nModify: %y\nChange: %z\n Birth: %w\n"

/-- Tell what is kept of files. -/
def tellStatus : Program :=
  withOptions ⟨['L', 'f', 't'], ['c', 'π'],
      [("--format", 'c'), ("--printf", 'π'), ("--dereference", 'L'), ("--terse", 't'),
        ("--file-system", 'f'), ("--cached", 'π')], false⟩ 1 fun p name g => do
    if g.operands.isEmpty then return ← misuse p name "missing operand" 1
    let fine ← eachFile g.operands fun path => do
      let place ← if path = "-" then found p true "/dev/stdin" else found p (g.has 'L') path
      match place with
      | .error e =>
        blame p name "cannot statx" path e
        return false
      | .ok (l, e) =>
        let s ← get
        let show_ (escapes : Bool) (format : String) : String :=
          String.ofList (statusFormat s path l e escapes (format.length + 1) format.toList)
        match (g.options.filter fun o => o.1 ∈ ['c', 'π']).getLast? with
        | some ('π', format) => p.say (show_ true format)
        | some (_, format) => p.say (show_ false format ++ "\n")
        | none =>
          if g.has 't' then p.say (show_ false "%n %s %b %f %u %g %D %i %h %t %T %X %Y %Z %W %o" ++ "\n")
          else p.say (show_ false (fullStatus e))
        return true
    return statusOf fine

/-- How space is summed up and shown. -/
structure Spending where
  apparent : Bool
  /-- How large the units are that are shown, unless that depends on the number. -/
  unit : Nat
  human : Option Nat
  all : Bool
  separate : Bool
  depth : Option Nat
  lineEnd : String

/-- The space of a file. -/
def Spending.spaceOf (x : Spending) (e : Entry) : Nat :=
  if x.apparent then sizeOf e else 512 * blocksOf e

/-- A space as it is shown. -/
def Spending.shown (x : Spending) (n : Nat) : String :=
  match x.human with
  | some base => if n = 0 then "0" else humanSize base n
  | none => toString ((n + x.unit - 1) / x.unit)

/-- Sum up the space of what stands at a place and below it; the sum and the places that were
    counted are returned. -/
def Spending.sum (x : Spending) (p : Process) (s : System) :
    Nat → Nat → String → Location → List Location → Act (Nat × List Location)
  | 0, _, _, _, seen => return (0, seen)
  | fuel + 1, depth, path, l, seen => do
    let places := ((s.shared.find? (·.contains l)).getD [l])
    if places.any seen.contains then return (0, seen)
    let seen := if places.length = 1 then seen else places ++ seen
    match s.files.get? l with
    | some .directory =>
      let mut total := x.spaceOf .directory
      let mut seen := seen
      for (name, e) in s.files.children l do
        let (n, more) ← x.sum p s fuel (depth + 1) (inside path (spread name)) (l ++ [name]) seen
        seen := more
        if !(x.separate && isDirectoryEntry e) then total := total + n
      if x.depth.all (depth ≤ ·) then p.say (x.shown total ++ "\t" ++ path ++ x.lineEnd)
      return (total, seen)
    | some e =>
      let n := x.spaceOf e
      if (x.all || depth = 0) && x.depth.all (depth ≤ ·) then
        p.say (x.shown n ++ "\t" ++ path ++ x.lineEnd)
      return (n, seen)
    | none => return (0, seen)

/-- Sum up the space that files take. -/
def spaceUsed : Program :=
  withOptions ⟨['a', 'b', 'c', 'D', 'h', 'H', 'k', 'l', 'L', 'm', 'P', 's', 'S', 'x', '0'],
      ['B', 'd', 't', 'X', 'ξ'],
      [("--all", 'a'), ("--bytes", 'b'), ("--total", 'c'), ("--human-readable", 'h'), ("--si", 'η'),
        ("--summarize", 's'), ("--max-depth", 'd'), ("--block-size", 'B'), ("--separate-dirs", 'S'),
        ("--apparent-size", 'α'), ("--null", '0'), ("--exclude", 'ξ'), ("--dereference", 'L'),
        ("--one-file-system", 'x'), ("--count-links", 'l')], false⟩ 1 fun p name g => do
    let depth := (g.valueOf? 'd').bind number?
    if let some text := g.valueOf? 'd' then
      if depth.isNone then
        complain p name ("invalid maximum depth " ++ marked text)
        return ← misuse p name "" 1
    if g.has 's' && g.has 'a' then
      return ← misuse p name "cannot both summarize and show all entries" 1
    let x : Spending := {
      apparent := g.has 'b' || g.has 'α'
      unit := if g.has 'b' then 1 else if g.has 'm' then 1048576
        else ((g.valueOf? 'B').bind scaled?).getD 1024
      human := if g.has 'h' then some 1024 else if g.has 'η' then some 1000 else none
      all := g.has 'a', separate := g.has 'S', depth := if g.has 's' then some 0 else depth
      lineEnd := if g.has '0' then "\x00" else "\n" }
    let mut total := 0
    let mut seen : List Location := []
    let mut fine := true
    let s ← get
    for path in if g.operands.isEmpty then ["."] else g.operands do
      match ← found p (g.has 'L' || g.has 'D' || g.has 'H') path with
      | .error e =>
        blame p name "cannot access" path e
        fine := false
      | .ok (l, _) =>
        let (n, more) ← x.sum p s (s.files.entries.length + 2) 0 path l seen
        total := total + n
        seen := more
    if g.has 'c' then p.say (x.shown total ++ "\ttotal" ++ x.lineEnd)
    return statusOf fine

end CompileTree.Shell.Utility
