import CompileTree.Shell.Utility.RichRegex
import CompileTree.Shell.Utility.Showing
import CompileTree.Shell.Utility.Walking

/-! # Seeking lines

Lines are sought by regular expressions, and written with what stands around them.
-/

namespace CompileTree.Shell.Utility

open Files

/-- How letters are compared. -/
def folding (ignoresCase : Bool) (c : Char) : Char := if ignoresCase then c.toLower else c

/-- A pattern that stands for itself. -/
def literally (cs : List Char) : Regex := cs.foldr (fun c r => .both (.one c) r) .nothing

/-- How patterns are spelled. -/
inductive Spelling where
  | basic
  | extended
  | fixed
  | rich
  deriving DecidableEq

/-- What is done with files that are no texts. -/
inductive BinaryFiles where
  | report
  | asText
  | skip
  deriving DecidableEq

/-- How lines are sought and shown. -/
structure Search where
  pattern : Option Regex
  fold : Char → Char
  inverted : Bool
  lineEnd : Char
  binary : BinaryFiles
  /-- Whether only the matches themselves are shown. -/
  matchesOnly : Bool
  numbers : Bool
  offsets : Bool
  colors : Bool
  titled : Bool
  /-- Whether a zero byte follows titles. -/
  zeroTitles : Bool
  tabs : Bool
  before : Nat
  after : Nat
  /-- What stands between lines that do not follow each other, if they are to be set apart. -/
  separator : Option String
  most : Option Nat
  /-- Whether nothing but the count of lines matters, and whether the first one is enough. -/
  counts : Bool
  stopsEarly : Bool

/-- A line with its number and the position of its start. -/
structure Numbered where
  number : Nat
  offset : Nat
  text : List Char

/-- How far a file was searched. -/
structure Progress where
  number : Nat
  offset : Nat
  /-- The last lines that were not shown, the last one first. -/
  recent : List Numbered
  /-- How many lines are to be shown behind the last hit. -/
  owed : Nat
  /-- The number of the last line that was shown. -/
  last : Nat
  hits : Nat
  isBinary : Bool
  /-- Whether the hits that are wanted were all found. -/
  full : Bool

namespace Search

/-- The matches in a line. -/
def parts (x : Search) (line : List Char) : List Regex.Match :=
  match x.pattern with
  | some r => (r.occurrences x.fold (line.length + 1) false [] line).filter (!·.matched.isEmpty)
  | none => []

/-- Whether a line is a hit. -/
def isHit (x : Search) (line : List Char) : Bool :=
  (x.pattern.any fun r => (r.search x.fold [] line).isSome) != x.inverted

/-- Color a text, if that is wanted. -/
def paint (x : Search) (color text : String) : String :=
  if x.colors then "\x1b[" ++ color ++ "m\x1b[K" ++ text ++ "\x1b[m\x1b[K" else text

/-- What stands before a line: where it is from, its number and its position. -/
def head (x : Search) (title : String) (mark : Char) (number offset : Nat) : String :=
  let sign := x.paint "36" (String.singleton mark)
  let name := if x.titled then
      x.paint "35" title ++ (if x.zeroTitles then "\x00" else sign) else ""
  let pad (width n : Nat) : String := if x.tabs then aligned width n else toString n
  let line := if x.numbers then x.paint "32" (pad 4 number) ++ sign else ""
  let place := if x.offsets then x.paint "32" (pad 7 offset) ++ sign else ""
  let all := name ++ line ++ place
  if x.tabs && all ≠ "" then all ++ "\t" else all

/-- A line with its matches colored. -/
def painted (x : Search) (line : List Char) : String :=
  let step (state : String × Nat) (m : Regex.Match) : String × Nat :=
    let between := String.ofList (m.before.drop state.2)
    (state.1 ++ between ++ x.paint "01;31" (String.ofList m.matched),
      m.before.length + m.matched.length)
  let (text, done) := (x.parts line).foldl step ("", 0)
  text ++ String.ofList (line.drop done)

/-- Write a line, which is a hit if its mark is a colon. -/
def write (x : Search) (p : Process) (title : String) (mark : Char) (l : Numbered) :
    Act Unit := do
  if x.matchesOnly then
    if mark = ':' && !x.inverted then
      for m in x.parts l.text do
        p.say (x.head title mark l.number (l.offset + m.before.length) ++
          x.paint "01;31" (String.ofList m.matched) ++ String.singleton x.lineEnd)
  else
    let shown := if x.colors && (mark = ':') != x.inverted then x.painted l.text
      else String.ofList l.text
    p.say (x.head title mark l.number l.offset ++ shown ++ String.singleton x.lineEnd)

/-- Write what separates lines that do not follow each other; `earlier` is whether lines of
    other files were shown. -/
def setApart (x : Search) (p : Process) (earlier : Bool) (last next : Nat) : Act Unit := do
  if let some text := x.separator then
    if (if last = 0 then earlier else decide (last + 1 < next)) then
      p.say (x.paint "36" text ++ "\n")

/-- Go on with a line of a file; `earlier` is whether lines of other files were shown. -/
def step (x : Search) (p : Process) (title : String) (earlier : Bool) (st : Progress)
    (line : List Char) : Act (Bool × Progress) := do
  let l : Numbered := ⟨st.number + 1, st.offset, line⟩
  let st := { st with number := l.number, offset := l.offset + line.length + 1 }
  let st := if x.binary ≠ .asText && x.lineEnd = '\n' && line.contains '\x00' then
      { st with isBinary := true } else st
  if st.full && st.owed = 0 then return (false, st)
  if x.isHit line then
    if st.full then return (false, st)
    let st := { st with hits := st.hits + 1 }
    if x.stopsEarly || (st.isBinary && !x.counts) then return (false, st)
    let full := x.most == some st.hits
    if x.counts then return (!full, { st with full })
    let pending := (st.recent.filter (st.last < ·.number)).reverse
    let first := (pending.head?.map (·.number)).getD l.number
    x.setApart p earlier st.last first
    for old in pending do x.write p title '-' old
    x.write p title ':' l
    let st := { st with last := l.number, recent := [], owed := x.after, full }
    return (!(full && x.after = 0), st)
  else if 0 < st.owed && !x.counts then
    x.write p title '-' l
    return (true, { st with last := l.number, owed := st.owed - 1 })
  else return (true, { st with recent := (l :: st.recent).take x.before })

end Search

/-- How a search of a file has ended. -/
inductive Found where
  | nothing
  | lines (count : Nat)
  | failed (e : Error)

/-- Warnings about repetitions that repeat nothing; `bare` is whether there is nothing to
    repeat. -/
def idleRepetitions : Bool → List Char → List String
  | _, [] => []
  | _, '\\' :: _ :: cs => idleRepetitions false cs
  | bare, c :: cs =>
    let rest := idleRepetitions (c = '(' || c = '|' || (bare && (c = '^' || c = '*'))) cs
    if bare && (c = '*' || c = '+' || c = '?') then
      (String.singleton c ++ " at start of expression") :: rest
    else if bare && c = '\x7b' && cs.head?.any Char.isDigit then
      "\x7b...\x7d at start of expression" :: rest
    else rest

/-- Whether a text holds a set that was meant as a class of characters. -/
def hasConfusedClass : List Char → Bool
  | '\\' :: _ :: cs => hasConfusedClass cs
  | '[' :: ':' :: cs =>
    let name := cs.takeWhile Char.isAlpha
    (!name.isEmpty && [':', ']'].isPrefixOf (cs.drop name.length)) || hasConfusedClass cs
  | '[' :: '[' :: cs => hasConfusedClass cs
  | _ :: cs => hasConfusedClass cs
  | [] => false

/-- Read a pattern as it is spelled. -/
def Spelling.read (s : Spelling) (cs : List Char) : Except String Regex := do
  match s with
  | .fixed => return literally cs
  | .rich => Regex.Rich.read cs
  | s =>
    let r ← (Regex.Dialect.seeking (s = .extended)).read cs
    if hasConfusedClass cs then
      throw "character class syntax is [[:space:]], not [:space:]"
    return r.1

/-- The pattern for whole lines or whole words. -/
def boundedBy (lines words : Bool) (r : Regex) : Regex :=
  if lines then .both (.edge .textStart) (.both r (.edge .textFinish))
  else if words then .both (.edge .afterGap) (.both r (.edge .beforeGap))
  else r

/-- The alternatives of some patterns. -/
def anyOf : List Regex → Option Regex
  | [] => none
  | [r] => some r
  | r :: rest => (anyOf rest).map (.either r)

/-- The options for seeking lines. -/
def searchOptions : Allowed :=
  ⟨['E', 'F', 'G', 'P', 'i', 'y', 'v', 'c', 'n', 'l', 'L', 'q', 's', 'o', 'x', 'w', 'h', 'H', 'a',
      'z', 'b', 'r', 'R', 'I', 'T', 'Z', 'U'],
    ['e', 'm', 'f', 'A', 'B', 'C', 'd', 'D', 'λ', 'γ', 'ι', 'ε', 'δ', 'β', 'ξ'],
    [("--quiet", 'q'), ("--silent", 'q'), ("--ignore-case", 'i'), ("--no-ignore-case", 'ν'),
      ("--invert-match", 'v'), ("--count", 'c'), ("--fixed-strings", 'F'), ("--basic-regexp", 'G'),
      ("--extended-regexp", 'E'), ("--perl-regexp", 'P'), ("--line-number", 'n'),
      ("--only-matching", 'o'), ("--regexp", 'e'), ("--file", 'f'), ("--word-regexp", 'w'),
      ("--line-regexp", 'x'), ("--null-data", 'z'), ("--no-messages", 's'), ("--max-count", 'm'),
      ("--byte-offset", 'b'), ("--with-filename", 'H'), ("--no-filename", 'h'), ("--label", 'λ'),
      ("--text", 'a'), ("--binary-files", 'β'), ("--recursive", 'r'),
      ("--dereference-recursive", 'R'), ("--include", 'ι'), ("--exclude", 'ε'),
      ("--exclude-from", 'ξ'), ("--exclude-dir", 'δ'), ("--files-without-match", 'L'),
      ("--files-with-matches", 'l'), ("--initial-tab", 'T'), ("--null", 'Z'),
      ("--before-context", 'B'), ("--after-context", 'A'), ("--context", 'C'),
      ("--group-separator", 'γ'), ("--no-group-separator", 'σ'), ("--color?", 'κ'),
      ("--colour?", 'κ'), ("--line-buffered", 'ω'), ("--directories", 'd'), ("--devices", 'D'),
      ("--binary", 'U')], false⟩

/-- The patterns that options and a first operand give, each with what is told before a
    fault in it; an error names the file that could not be read. -/
def givenPatterns (p : Process) (g : Given) (first : List String) :
    Act (Except String (List (String × List Char))) := do
  let mut all : List (String × List Char) := first.flatMap fun text =>
    (text.toList.splitOn '\n').map ("", ·)
  for (letter, value) in g.options do
    if letter = 'e' then all := all ++ (value.toList.splitOn '\n').map ("", ·)
    if letter = 'f' then
      match ← content p value with
      | .error e => return .error (value ++ ": " ++ e.text)
      | .ok text =>
        let lines := (linesOf text).zipIdx 1
        all := all ++ lines.map fun (line, n) => (value ++ ":" ++ toString n ++ ": ", line.toList)
  return .ok all

/-- The files that are searched, with the titles that they get. -/
def searchedFiles (p : Process) (g : Given) (operands : List String) :
    Act (List (String × String)) := do
  let recursive := g.has 'r' || g.has 'R' || g.valueOf? 'd' == some "recurse"
  let valuesOf (letter : Char) := (g.options.filter (·.1 == letter)).map (·.2)
  let (includes, excludes) := (valuesOf 'ι', valuesOf 'ε')
  let isWanted (path : String) : Bool :=
    let fits (pattern : String) : Bool :=
      matchesName pattern (lastName path) || matchesName pattern path
    (includes.isEmpty || includes.any fits) && !excludes.any fits
  if !recursive then
    return (orInput operands).filterMap fun f =>
      if f = "-" then some (f, (g.valueOf? 'λ').getD "(standard input)")
      else if isWanted f then some (f, f) else none
  let mut all : List (String × String) := []
  let t := (← get).files
  for operand in if operands.isEmpty then ["."] else operands do
    match t.entry p.working true (Process.path operand) with
    | .ok (l, .directory) =>
      let enters (v : Visit) : Bool :=
        v.depth = 0 || !(valuesOf 'δ').any (matchesName · (lastName v.path))
      for v in visits t (g.has 'R') enters operand l .directory do
        match v.entry with
        | .file .. =>
          if isWanted v.path then
            let title := if operands.isEmpty then (v.path.drop 2).copy else v.path
            all := all ++ [(v.path, title)]
        | _ => pure ()
    | _ =>
      if operand = "-" then all := all ++ [(operand, (g.valueOf? 'λ').getD "(standard input)")]
      else if isWanted operand then all := all ++ [(operand, operand)]
  return all

/-- Search a file; `earlier` is whether lines of other files were shown. What is wrong with
    a file comes with whether that may go untold. -/
def searchFile (x : Search) (p : Process) (name file title : String) (earlier : Bool) :
    Act (Except (String × Bool) Nat) := do
  match ← openSource p file with
  | .error e => return .error (file ++ ": " ++ e.text, true)
  | .ok index =>
    let start := (← System.peek index 32768).toOption.getD .empty
    let isBinary := x.binary ≠ .asText && x.lineEnd = '\n' && start.toList.contains 0
    if isBinary && x.binary = .skip then return .ok 0
    if x.most == some 0 then return .ok 0
    if (← isOutputOf p index 0) && !x.counts && !x.stopsEarly && x.most != some 1 then
      return .error (title ++ ": input file is also the output", false)
    let st : Progress := ⟨0, 0, [], 0, 0, 0, isBinary, false⟩
    match ← eachLine index x.lineEnd (fun st line _ => x.step p title earlier st line) st with
    | .error e => return .error (file ++ ": " ++ e.text, true)
    | .ok st =>
      if st.isBinary && 0 < st.hits && !x.counts && !x.stopsEarly then
        complain p name (title ++ ": binary file matches")
      return .ok st.hits

/-- Tell how lines are sought. -/
def searchUsage (p : Process) (name : String) : Act Nat := do
  p.complain ("Usage: " ++ name ++ " [OPTION]... PATTERNS [FILE]...")
  p.complain ("Try '" ++ name ++ " --help' for more information.")
  return 2

/-- Seek lines with given options. -/
def seekLines (p : Process) (name : String) (spelling : Spelling) (g : Given) : Act Nat := do
  let hasPatterns := g.has 'e' || g.has 'f'
  let (spelled, files) := if hasPatterns then ([], g.operands)
    else (g.operands.take 1, g.operands.drop 1)
  let context := g.options.filter fun o => o.1 ∈ ['A', 'B', 'C']
  if let some (_, value) := context.find? fun o => (number? o.2).isNone then
    complain p name (value ++ ": invalid context length argument")
    return 2
  if (g.valueOf? 'm').any fun m => (number? m).isNone then
    complain p name "invalid max count"
    return 2
  if (g.valueOf? 'β').any (· ∉ ["text", "binary", "without-match"]) then
    complain p name "unknown binary-files type"
    return 2
  if spelled.isEmpty && !hasPatterns then return ← searchUsage p name
  let lengthOf (letter : Char) : Nat :=
    (((g.valueOf? letter).orElse fun _ => g.valueOf? 'C').bind number?).getD 0
  let spelling : Spelling := match (g.options.filter fun o => o.1 ∈ ['E', 'F', 'G', 'P']).getLast? with
    | some ('E', _) => .extended
    | some ('F', _) => .fixed
    | some ('P', _) => .rich
    | some _ => .basic
    | none => spelling
  match ← givenPatterns p g spelled with
  | .error text =>
    complain p name text
    return 2
  | .ok texts =>
    let mut patterns : List Regex := []
    for (label, cs) in texts do
      match spelling.read cs with
      | .error text =>
        complain p name (label ++ text)
        return 2
      | .ok r => patterns := patterns ++ [boundedBy (g.has 'x') (g.has 'w') r]
    if spelling == .extended then
      for (_, cs) in texts do
        for text in idleRepetitions true cs do complain p name ("warning: " ++ text)
    let lastCase := (g.options.filter fun o => o.1 ∈ ['i', 'y', 'ν']).getLast?.map (·.1)
    let all ← searchedFiles p g files
    let recursive := g.has 'r' || g.has 'R' || g.valueOf? 'd' == some "recurse"
    let titledByCount := 1 < files.length || recursive && (files.isEmpty || 1 < all.length ||
      all.any fun f => !files.contains f.1)
    let lastTitle := (g.options.filter fun o => o.1 ∈ ['h', 'H']).getLast?.map (·.1)
    let lists := (g.options.filter fun o => o.1 ∈ ['l', 'L']).getLast?.map (·.1)
    let x : Search := {
      pattern := anyOf patterns, fold := folding (lastCase == some 'i' || lastCase == some 'y')
      inverted := g.has 'v', lineEnd := lineEndFor (g.has 'z')
      binary := if g.has 'a' || g.valueOf? 'β' == some "text" then .asText
        else if g.has 'I' || g.valueOf? 'β' == some "without-match" then .skip else .report
      matchesOnly := g.has 'o', numbers := g.has 'n', offsets := g.has 'b'
      colors := (g.valueOf? 'κ').any (· ∈ ["always", "yes", "force"])
      titled := match lastTitle with
        | some c => c == 'H'
        | none => titledByCount
      zeroTitles := g.has 'Z', tabs := g.has 'T', before := lengthOf 'B', after := lengthOf 'A'
      separator := if context.isEmpty then none
        else match (g.options.filter fun o => o.1 ∈ ['γ', 'σ']).getLast? with
          | some ('γ', text) => some text
          | some _ => none
          | none => some "--"
      most := (g.valueOf? 'm').bind number?, counts := g.has 'c'
      stopsEarly := g.has 'q' || lists.isSome }
    let mut any := false
    let mut failed := false
    let mut shows := false
    for (file, title) in all do
      match ← searchFile x p name file title shows with
      | .error (text, mayBeUntold) =>
        if !(mayBeUntold && g.has 's') then complain p name text
        failed := true
      | .ok hits =>
        let head := x.paint "35" title
        if 0 < hits then
          any := true
          shows := true
        if g.has 'q' then
          if any then return 0
        else if lists.isSome then
          if (0 < hits) == (lists == some 'l') then
            p.say (head ++ if g.has 'Z' then "\x00" else "\n")
        else if g.has 'c' then
          let start := if x.titled then
              head ++ (if g.has 'Z' then "\x00" else x.paint "36" ":") else ""
          p.say (start ++ toString hits ++ "\n")
    return if failed then 2 else if any then 0 else 1

/-- Arguments in which a number behind a hyphen asks for lines around hits. -/
def spelledContext (arguments : List String) : List String :=
  arguments.map fun a =>
    match a.toList with
    | '-' :: c :: cs => if (c :: cs).all Char.isDigit then "-C" ++ String.ofList (c :: cs) else a
    | _ => a

/-- Seek lines by patterns of a spelling. -/
def grepAs (spelling : Spelling) : Program := fun p arguments => do
  let name := arguments.headD ""
  match searchOptions.separate (spelledContext (arguments.drop 1)) with
  | .ok g => seekLines p name spelling g
  | .error text =>
    complain p name text
    searchUsage p name

/-- Seek lines. -/
def grep : Program := grepAs .basic

/-- Seek lines below directories. -/
def grepBelow : Program := fun p arguments =>
  grepAs .basic p ("grep" :: "-r" :: arguments.drop 1)

/-- Seek lines in the name of the utility for all spellings. -/
def grepNamed (spelling : Spelling) : Program := fun p arguments =>
  grepAs spelling p ("grep" :: arguments.drop 1)

end CompileTree.Shell.Utility
