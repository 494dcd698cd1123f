import CompileTree.Shell.Utility.Editing
import CompileTree.Shell.Utility.Options

/-! # Editing lines

An editor has a line in hand and holds another one. For every line of the input it
runs the commands of a script and writes the line, unless it was dropped. What is
to be appended is written before the next line is read. A line whose end is missing
gets it as soon as something else is written behind it.
-/

namespace CompileTree.Shell.Utility.Editing

open Files

/-- A line, and whether its end is there. -/
structure Line where
  text : List Char
  isEnded : Bool

/-- What is written behind a line. -/
inductive Appended where
  | text (cs : List Char)
  | file (name : String)

/-- How an editor works. -/
structure Setup where
  process : Process
  /-- The name in which it complains. -/
  name : String
  script : Script
  quiet : Bool
  /-- Whether every file counts for itself. -/
  separate : Bool
  /-- Whether files are replaced, and what the names of the old ones end in. -/
  inPlace : Option String
  /-- The width of listed lines. -/
  width : Nat
  lineEnd : Char

/-- An editor at work. -/
structure Editor where
  line : Line
  held : Line
  number : Nat
  /-- Whether there was a substitution in the line. -/
  changed : Bool
  appended : List Appended
  /-- The commands whose ranges are open, with the last line of each if it is known. -/
  ranges : List (Nat × Option Nat)
  used : Option Sought
  /-- The lines that are left of the open file. -/
  lines : List Line
  file : String
  /-- The files that are not open yet. -/
  files : List String
  /-- The lines that are left of files which are read line by line. -/
  readers : List (String × List Line)
  /-- What was written to the output. -/
  output : String
  /-- The open files to which lines are written. -/
  targets : List (String × Nat)
  /-- Where the last line has no end yet. The output has no name. -/
  unended : List String
  failed : Bool

/-- Steps of an editor, which may end with a status. -/
abbrev Steps := ExceptT Nat (StateT Editor Act)

/-- Do something with the files of the system. -/
def acting {α : Type} (a : Act α) : Steps α := liftM a

/-- Complain and end. -/
def stop (s : Setup) (status : Nat) (text : String) : Steps Unit := do
  acting (complain s.process s.name text)
  throw status

/-- The lines of a text. -/
def Line.ofText (lineEnd : Char) (text : String) : List Line :=
  let parts := text.toList.splitOn lineEnd
  (parts.dropLast.map (⟨·, true⟩)) ++ match parts.getLast? with
    | some (c :: cs) => [⟨c :: cs, false⟩]
    | _ => []

/-- Write to a named target or to the output. -/
def emit (s : Setup) (target : String) (text : List Char) : Steps Unit := do
  let e ← get
  let text := if target ∈ e.unended then s.lineEnd :: text else text
  set { e with unended := e.unended.filter (· != target) }
  match e.targets.lookup target with
  | some index =>
    let _ ← acting (System.write s.process.number index (Text.toBytes (String.ofList text)))
  | none => modify fun e => { e with output := e.output ++ String.ofList text }

/-- Write a line to a named target or to the output. -/
def emitLine (s : Setup) (target : String) (l : Line) : Steps Unit := do
  emit s target (l.text ++ if l.isEnded then [s.lineEnd] else [])
  if !l.isEnded then modify fun e => { e with unended := target :: e.unended }

/-- Write what is to be appended. -/
def emitAppended (s : Setup) : Steps Unit := do
  let appended := (← get).appended
  modify fun e => { e with appended := [] }
  for a in appended do
    match a with
    | .text cs => emit s "" cs
    | .file name =>
      match ← acting (s.process.readFile name) with
      | .ok text => emit s "" text.toList
      | .error _ => emit s "" []

/-- Put the output in the place of the open file if files are replaced. -/
def replaceFile (s : Setup) : Steps Unit := do
  let e ← get
  match s.inPlace, e.file with
  | none, _ | _, "" => return
  | some suffix, file =>
    set { e with output := "", file := "", unended := e.unended.filter (· != "") }
    let t := (← acting get).files
    let p := s.process
    match t.locate p.working false (Process.path file), t.entry p.working true (Process.path file) with
    | .ok l, .ok (_, .file _ executable) =>
      if suffix ≠ "" then
        let base := l.getLastD ""
        let old := if '*' ∈ suffix.toList then
            String.join (suffix.toList.map fun c => if c = '*' then base else String.singleton c)
          else base ++ suffix
        let place := if '/' ∈ old.toList then (t.locate p.working false (Process.path old)).toOption
          else some (l.dropLast ++ [old])
        match place with
        | some place => acting (System.move l place)
        | none => pure ()
      else acting (System.remove l)
      acting (modify fun sys =>
        { sys with files := sys.files.put l (.file (Text.toBytes e.output) executable) })
    | _, _ => return

/-- The ranges that are open from the start: those that start before the first line. -/
def startRanges (s : Script) : List (Nat × Option Nat) :=
  s.commands.toList.zipIdx.filterMap fun (k, i) =>
    match k.scope.first with
    | some (.line 0) => some (i, none)
    | _ => none

/-- Open the next file. When only looking ahead, a directory counts as empty. -/
def openNext (s : Setup) (looking : Bool) : Steps Unit := do
  match (← get).files with
  | [] => return
  | file :: files =>
    replaceFile s
    modify fun e => { e with files, lines := [] }
    let p := s.process
    if s.inPlace.isSome then
      match (← acting get).files.entry p.working true (Process.path file) with
      | .ok (_, .file ..) | .error _ => pure ()
      | .ok _ => stop s 4 ("couldn't edit " ++ file ++ ": not a regular file")
    match ← acting (if s.inPlace.isSome then p.readFile file else content p file) with
    | .ok text =>
      modify fun e =>
        { e with
          file
          lines := Line.ofText s.lineEnd text
          number := if s.separate then 0 else e.number
          held := if s.separate then ⟨[], true⟩ else e.held
          ranges := if s.separate then startRanges s.script else e.ranges }
    | .error .isADirectory =>
      if !looking then stop s 4 ("read error on " ++ file ++ ": " ++ Error.isADirectory.text)
    | .error e =>
      acting (complain p s.name ("can't read " ++ file ++ ": " ++ e.text))
      modify fun e => { e with failed := true }

/-- Open files until one of them has lines; `fuel` bounds their number. -/
def openUntilLines (s : Setup) (looking : Bool) : Nat → Steps Unit
  | 0 => return
  | fuel + 1 => do
    let e ← get
    if e.lines.isEmpty && !e.files.isEmpty then
      openNext s looking
      openUntilLines s looking fuel

/-- Whether the line in hand is the last one. -/
def isLast (s : Setup) : Steps Bool := do
  if !s.separate then openUntilLines s true ((← get).files.length + 1)
  return (← get).lines.isEmpty

/-- Whether there are no lines left at all. -/
def isAtEnd (s : Setup) : Steps Bool := do
  if (← isLast s) then return (← get).files.isEmpty
  else return false

/-- Take the next line in hand, or add it to the one in hand; whether there is one. -/
def advance (s : Setup) (adds : Bool) : Steps Bool := do
  emitAppended s
  openUntilLines s false ((← get).files.length + 1)
  let e ← get
  match e.lines with
  | [] => return false
  | l :: lines =>
    set { e with
      lines
      line := if adds then ⟨e.line.text ++ s.lineEnd :: l.text, l.isEnded⟩ else l
      number := e.number + 1
      changed := false }
    return true

/-- What is sought, where nothing stands for what was sought last. -/
def resolve (s : Setup) (sought : Option Sought) : Steps (Option Sought) := do
  match sought with
  | some r =>
    modify fun e => { e with used := some r }
    return some r
  | none =>
    let used := (← get).used
    if used.isNone then stop s 1 "-e expression #1, char 0: no previous regular expression"
    return used

/-- How letters are compared. -/
def Sought.fold (r : Sought) (c : Char) : Char := if r.ignoresCase then c.toLower else c

/-- Whether an address is that of the line in hand. -/
def meets (s : Setup) (a : Address) : Steps Bool := do
  let e ← get
  match a with
  | .line n => return e.number == n
  | .every first step => return first ≤ e.number && (e.number - first) % step == 0
  | .last => isLast s
  | .containing sought =>
    match ← resolve s sought with
    | some r => return (r.expression.search r.fold [] e.line.text).isSome
    | none => return false

/-- The last line of a range that starts at a line, if it is known. -/
def Finish.limit? (f : Finish) (n : Nat) : Option Nat :=
  match f with
  | .at (.line m) => some m
  | .behind lines => some (n + lines)
  | .multiple m => some (if m = 0 then n else (n / m + 1) * m)
  | .at _ => none

/-- Whether the command with a number is for the line in hand. -/
def isChosen (s : Setup) (index : Nat) (scope : Scope) : Steps Bool := do
  match scope.first, scope.finish with
  | none, _ => return true
  | some a, none => meets s a
  | some a, some f =>
    let e ← get
    let close : Steps Unit :=
      modify fun e => { e with ranges := e.ranges.filter (·.1 != index) }
    match e.ranges.lookup index, f with
    | some (some m), _ =>
      if m ≤ e.number then close
      return e.number ≤ m
    | some none, .at b =>
      if ← meets s b then close
      return true
    | some none, _ => return true
    | none, f =>
      if !(← meets s a) then return false
      let limit := f.limit? e.number
      if limit.all (e.number < ·) then
        modify fun e => { e with ranges := (index, limit) :: e.ranges }
      return true

/-- A letter as a casing has it. -/
def Casing.letter (c : Casing) (letter : Char) : Char :=
  match c with
  | .plain => letter
  | .lower | .lowerOne => letter.toLower
  | .upper | .upperOne => letter.toUpper

/-- A text in a casing, and another one for its first letter. -/
def cased (whole : Casing) (one : Option Casing) : List Char → List Char
  | [] => []
  | c :: cs => (one.getD whole).letter c :: cs.map whole.letter

/-- What pieces stand for in a match, in a casing and another one for the next letter. -/
def filled (m : Regex.Match) : Casing → Option Casing → List Piece → List Char
  | _, _, [] => []
  | whole, _, .casing c :: ps =>
    if c = .lowerOne ∨ c = .upperOne then filled m whole (some c) ps else filled m c none ps
  | whole, one, .text cs :: ps =>
    cased whole one cs ++ filled m whole (if cs.isEmpty then one else none) ps
  | whole, one, .group n :: ps =>
    let cs := if n = 0 then m.matched else (m.groups.lookup n).getD []
    cased whole one cs ++ filled m whole (if cs.isEmpty then one else none) ps

/-- A line in which matches are replaced, if there are any. -/
def Substitution.replaced? (s : Substitution) (r : Sought) (line : List Char) : Option (List Char) :=
  let all := (r.expression.occurrences r.fold (line.length + 1) false [] line).drop (s.nth - 1)
  let chosen := if s.everywhere then all else all.take 1
  let step (state : List Char × Nat) (m : Regex.Match) : List Char × Nat :=
    (state.1 ++ m.before.drop state.2 ++ filled m .plain none s.pieces,
      m.before.length + m.matched.length)
  let (text, position) := chosen.foldl step ([], 0)
  if chosen.isEmpty then none else some (text ++ line.drop position)

/-- A character as it is listed. -/
def listed (c : Char) : List Char :=
  if c = '\\' then ['\\', '\\']
  else if isVisible c then [c]
  else '\\' :: escape c

/-- A line as it is listed in lines of a width, from a column on. -/
def listedLines (width column : Nat) : List Char → List Char
  | [] => ['$', '\n']
  | c :: cs =>
    let shown := listed c
    if 0 < width ∧ width - 1 < column + shown.length then
      ['\\', '\n'] ++ shown ++ listedLines width shown.length cs
    else shown ++ listedLines width (column + shown.length) cs

/-- What comes after a command. -/
inductive After where
  /-- The command with a number. -/
  | command (index : Nat)
  /-- The line is written, and the next one is read. -/
  | done
  /-- The next line is read. -/
  | dropped
  /-- The script starts again with the line in hand. -/
  | again
  | ended (status : Nat)

/-- Do what a command does for the line in hand. -/
def perform (s : Setup) (index : Nat) (edit : Edit) : Steps After := do
  let e ← get
  let onward := After.command (index + 1)
  let write (target : String) (l : Line) : Steps After := do
    emitLine s target l
    return onward
  let put (e : Editor) : Steps After := do
    set e
    return onward
  let firstLine := e.line.text.takeWhile (· ≠ s.lineEnd)
  let isWhole := firstLine.length == e.line.text.length
  let first : Line := ⟨firstLine, !isWhole || e.line.isEnded⟩
  let append (a : Appended) : Steps After := put { e with appended := e.appended ++ [a] }
  match edit with
  | .substitute sub =>
    match ← resolve s sub.sought with
    | none => return onward
    | some r =>
      match sub.replaced? r e.line.text with
      | none => return onward
      | some text =>
        modify fun e => { e with line := { e.line with text }, changed := true }
        let line := (← get).line
        if sub.shows then emitLine s "" line
        match sub.target with
        | some target => emitLine s target line
        | none => pure ()
        return onward
  | .delete => return .dropped
  | .deleteFirst =>
    match e.line.text.drop firstLine.length with
    | [] => return .dropped
    | _ :: text =>
      set { e with line := { e.line with text } }
      return .again
  | .show => write "" e.line
  | .showFirst => write "" first
  | .number =>
    emit s "" ((toString e.number).toList ++ ['\n'])
    return onward
  | .list width =>
    emit s "" (listedLines (width.getD s.width) 0 e.line.text)
    return onward
  | .fileName =>
    emit s "" (e.file.toList ++ ['\n'])
    return onward
  | .clear => put { e with line := { e.line with text := [] } }
  | .exchange pairs =>
    put { e with line := { e.line with text := e.line.text.map fun c => (pairs.lookup c).getD c } }
  | .insert text =>
    emit s "" text
    return onward
  | .append text => append (.text text)
  | .change text =>
    if (e.ranges.lookup index).isNone then emit s "" text
    return .dropped
  | .quit status =>
    if !s.quiet then emitLine s "" e.line
    emitAppended s
    emit s "" []
    return .ended status
  | .abandon status => return .ended status
  | .next =>
    if ← isAtEnd s then return .done
    if !s.quiet then emitLine s "" e.line
    return if ← advance s false then onward else .dropped
  | .appendNext =>
    if ← isAtEnd s then return .done
    return if ← advance s true then onward else .done
  | .hold => put { e with held := e.line }
  | .holdMore =>
    put { e with held := ⟨e.held.text ++ s.lineEnd :: e.line.text, e.line.isEnded⟩ }
  | .fetch => put { e with line := e.held }
  | .fetchMore =>
    put { e with line := ⟨e.line.text ++ s.lineEnd :: e.held.text, e.held.isEnded⟩ }
  | .swap => put { e with line := e.held, held := e.line }
  | .readFile name => append (.file name)
  | .readLine name =>
    let lines ← match e.readers.lookup name with
      | some lines => pure lines
      | none =>
        match ← acting (s.process.readFile name) with
        | .ok text => pure (Line.ofText s.lineEnd text)
        | .error _ => pure []
    let readers := (name, lines.drop 1) :: e.readers.filter (·.1 != name)
    match lines with
    | [] => put { e with readers }
    | l :: _ =>
      let text := l.text ++ if l.isEnded then [s.lineEnd] else []
      put { e with readers, appended := e.appended ++ [.text text] }
  | .write name => write name e.line
  | .writeFirst name => write name first
  | .jump c label =>
    let taken := match c with
      | .always => true
      | .changed => e.changed
      | .unchanged => !e.changed
    if c = .changed ∨ c = .unchanged then set { e with changed := false }
    return .command (if taken then s.script.target label else index + 1)
  | .block _ | .nothing => return onward

/-- Run commands from the one with a number on; `fuel` bounds the steps. -/
def run (s : Setup) : Nat → Nat → Steps After
  | 0, _ => return .done
  | fuel + 1, index => do
    match s.script.commands[index]? with
    | none => return .done
    | some k =>
      let chosen ← isChosen s index k.scope
      let after ← if chosen != k.scope.negated then perform s index k.edit
        else pure (.command (match k.edit with
          | .block after => after
          | _ => index + 1))
      match after with
      | .command next => run s fuel next
      | after => return after

/-- How many steps a script and its rounds may take. -/
def stepLimit : Nat := 10000000

/-- Edit one line after the other, the first of which may be in hand already. The status
    is that of a command that ends the script. -/
def rounds (s : Setup) : Nat → Bool → Steps (Option Nat)
  | 0, _ => return none
  | fuel + 1, isInHand => do
    if !isInHand then
      if !(← advance s false) then return none
    match ← run s stepLimit 0 with
    | .done | .command _ =>
      if !s.quiet then emitLine s "" (← get).line
      rounds s fuel false
    | .dropped => rounds s fuel false
    | .again =>
      emitAppended s
      rounds s fuel true
    | .ended status => return some status

/-- Open the files that a script writes to. -/
def openTargets (s : Setup) : Steps Unit := do
  let names := s.script.commands.toList.filterMap fun k => match k.edit with
    | .write name | .writeFirst name => some name
    | .substitute sub => sub.target
    | _ => none
  for name in names.eraseDups do
    let standard := match name with
      | "/dev/stdout" => some 1
      | "/dev/stderr" => some 2
      | _ => none
    match standard with
    | some n =>
      match s.process.descriptors.lookup n with
      | some index =>
        if n ≠ 1 ∨ s.inPlace.isSome then
          modify fun e => { e with targets := (name, index) :: e.targets }
      | none => pure ()
    | none =>
      match ← acting (s.process.openFile name .write) with
      | .ok index => modify fun e => { e with targets := (name, index) :: e.targets }
      | .error e => stop s 4 ("couldn't open file " ++ name ++ ": " ++ e.text)

/-- Edit files by a script. -/
def editFiles (s : Setup) (files : List String) : Act Nat := do
  let start : Editor :=
    { line := ⟨[], true⟩, held := ⟨[], true⟩, number := 0, changed := false, appended := [],
      ranges := startRanges s.script, used := none, lines := [], file := "", files, readers := [],
      output := "", targets := [], unended := [], failed := false }
  let steps : Steps (Option Nat) := do
    openTargets s
    let status ← rounds s stepLimit false
    replaceFile s
    return status
  let (result, e) ← steps.run.run start
  s.process.say e.output
  if e.file = "-" then
    match s.process.descriptors.lookup 0 with
    | some index =>
      let left := e.lines.foldl (fun n l => n + l.text.length + if l.isEnded then 1 else 0) 0
      System.unread index left
    | none => pure ()
  return match result with
    | .error status => status
    | .ok status => if e.failed then 2 else status.getD 0

end CompileTree.Shell.Utility.Editing

namespace CompileTree.Shell.Utility

open Files Editing

/-- Arguments in which the option to replace files is spelled in full where it has
    letters behind it or before it. -/
def spelledInPlace (arguments : List String) : List String :=
  arguments.flatMap fun argument =>
    match argument.toList with
    | '-' :: c :: cs =>
      let letters := (c :: cs).takeWhile (· ∈ ['n', 'E', 'r', 's', 'u', 'z'])
      match (c :: cs).drop letters.length with
      | 'i' :: suffix =>
        (if letters.isEmpty then [] else [String.ofList ('-' :: letters)]) ++
          [if suffix.isEmpty then "--in-place" else "--in-place=" ++ String.ofList suffix]
      | _ => [argument]
    | _ => [argument]

/-- The sources of a script that options give. -/
def givenSources (p : Process) : List (Char × String) → Act (Except String (List Source))
  | [] => return .ok []
  | ('e', text) :: rest => do
    return (← givenSources p rest).map (⟨text.toList, none⟩ :: ·)
  | ('f', file) :: rest => do
    match ← content p file with
    | .ok text => return (← givenSources p rest).map (⟨text.toList, some file⟩ :: ·)
    | .error e => return .error ("couldn't open file " ++ file ++ ": " ++ e.text)
  | _ :: rest => givenSources p rest

/-- Edit lines. -/
def sed : Program := fun p arguments =>
  withOptions ⟨['n', 'E', 'r', 's', 'i', 'u', 'z'], ['e', 'f', 'l'],
      [("--quiet", 'n'), ("--silent", 'n'), ("--expression", 'e'), ("--file", 'f'),
        ("--regexp-extended", 'E'), ("--in-place?", 'i'), ("--separate", 's'), ("--unbuffered", 'u'),
        ("--null-data", 'z'), ("--line-length", 'l')], false⟩ 1
    (fun p name g => do
      let isScripted := g.has 'e' || g.has 'f'
      let (options, files) := if isScripted then (g.options, g.operands)
        else (((g.operands.take 1).map fun text => ('e', text)), g.operands.drop 1)
      if !isScripted && g.operands.isEmpty then
        p.complain ("Usage: " ++ name ++ " [OPTION]... \x7bscript-only-if-no-other-script\x7d [input-file]...")
        return 1
      match ← givenSources p options with
      | .error text =>
        complain p name text
        return 4
      | .ok sources =>
        let extended := g.has 'E' || g.has 'r'
        match Script.ofSources extended sources with
        | .error f =>
          complain p name (match f.place with
            | some place => place ++ ": " ++ f.text
            | none => f.text)
          return if f.place.isSome then 1 else 4
        | .ok script =>
          let setup : Setup :=
            { process := p, name, script, quiet := g.has 'n' || script.quiet
              separate := g.has 's' || g.has 'i', inPlace := g.valueOf? 'i'
              width := ((g.valueOf? 'l').bind number?).getD 70
              lineEnd := if g.has 'z' then '\x00' else '\n' }
          editFiles setup (orInput files)) p (spelledInPlace arguments)

end CompileTree.Shell.Utility
