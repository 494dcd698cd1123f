import CompileTree.Files.Mode
import CompileTree.Shell.Utility.Dates

/-! # Utilities that make and take away

Files and directories are made and taken away, and what is kept of them besides what
they hold is changed.
-/

namespace CompileTree.Shell.Utility

open Files Text

/-- Whether a directory stands at a place. -/
def isDirectoryEntry : Entry → Bool
  | .directory => true
  | _ => false

/-- Tell what was done, if that is asked for. -/
def tell (p : Process) (g : Given) (text : String) : Act Unit := do
  if g.has 'v' then p.say (text ++ "\n")

/-- The paths that lead to a path, the shortest first, and the path itself. -/
def waysTo (path : String) : List String :=
  let ns := names path
  let start := if isRooted path then "/" else ""
  (List.range ns.length).map fun n => start ++ "/".intercalate (ns.take (n + 1))

/-- The bits that a mode given as text leaves of others, or what is wrong with it. -/
def givenMode (g : Given) (letter : Char) (mask start : Nat) (isDirectory : Bool) :
    Except String (Option Nat) :=
  match g.valueOf? letter with
  | none => .ok none
  | some text =>
    match Mode.change? text with
    | some c => .ok (some (c.apply mask start isDirectory))
    | none => .error ("invalid mode " ++ shown text)

/-- Note that something was made at a path, with the bits that it has. -/
def settleNew (p : Process) (path : String) (mode : Option Nat) : Act Unit := do
  match ← found p false path with
  | .ok (l, e) =>
    System.note l
    let usual := if isDirectoryEntry e then 0o777 else 0o666
    match mode with
    | some m => modify fun s => { s with files := s.files.setMode l m }
    | none => modify fun s => { s with files := p.masked usual s.files l }
  | .error _ => return

/-- Make a directory, and note that. -/
def makeDirectory (p : Process) (path : String) (mode : Option Nat) : Act (Except Error Unit) := do
  let made ← System.change fun t => t.makeDirectory p.working (Process.path path)
  if made.toOption.isSome then settleNew p path mode
  return made

/-- Make directories. -/
def makeDirectories : Program :=
  withOptions ⟨['p', 'v', 'Z'], ['m'],
      [("--parents", 'p'), ("--mode", 'm'), ("--verbose", 'v')], false⟩ 1 fun p name g => do
    if g.operands.isEmpty then return ← misuse p name "missing operand" 1
    match givenMode g 'm' p.mask 0o777 true with
    | .error text =>
      complain p name text
      return 1
    | .ok mode =>
      let fine ← eachFile g.operands fun path => do
        let before := (← get).files
        let made ←
          if g.has 'p' then System.changes (Files.makeDirectories p.working (Process.path path))
          else System.change fun t => t.makeDirectory p.working (Process.path path)
        let ways := if g.has 'p' then waysTo path else [path]
        for way in ways do
          if !before.isDirectory p.working (Process.path way) &&
              (← isDirectory p way) then
            settleNew p way (if some way = ways.getLast? then mode else none)
            tell p g (name ++ ": created directory " ++ marked way)
        match made with
        | .ok () => return true
        | .error e =>
          complain p name ("cannot create directory " ++ marked path ++ ": " ++ e.text)
          return false
      return statusOf fine

/-- Take away a directory that is empty. -/
def removeEmpty (p : Process) (path : String) : Act (Except Error Unit) :=
  System.change fun t => do
    match ← t.entry p.working false (Process.path path) with
    | (l, .directory) =>
      if (names path).getLast? = some "." then throw .invalidArgument
      if (t.children l).isEmpty then
        if l.isEmpty then throw .busy else return t.remove l
      else throw .directoryNotEmpty
    | _ => throw .notADirectory

/-- Take empty directories away. -/
def removeDirectories : Program :=
  withOptions ⟨['p', 'v'], [],
      [("--parents", 'p'), ("--verbose", 'v'), ("--ignore-fail-on-non-empty", 'ι')], false⟩ 1
    fun p name g => do
      if g.operands.isEmpty then return ← misuse p name "missing operand" 1
      let fine ← eachFile g.operands fun path => do
        let ways := if g.has 'p' then (waysTo path).reverse else [path]
        let mut isFirst := true
        for way in ways do
          let way := if isFirst then path else way
          tell p g (name ++ ": removing directory, " ++ shown way)
          match ← removeEmpty p way with
          | .ok () => isFirst := false
          | .error e =>
            if g.has 'ι' && e == .directoryNotEmpty then return true
            blame p name (if isFirst then "failed to remove" else "failed to remove directory") way e
            return false
        return true
      return statusOf fine

/-- Whether the last name of a path is that of the directory itself or the one above. -/
def isDots (path : String) : Bool :=
  (((path.toList.splitOn '/').filter (· ≠ [])).getLast?).any fun cs => cs = ['.'] || cs = ['.', '.']

/-- Ask a question, and tell whether the answer is yes. -/
def confirmed (p : Process) (question : String) : Act Bool := do
  p.flush
  let _ ← p.write 2 question
  match p.descriptors.lookup 0 with
  | none => return false
  | some index =>
    let line ← System.readLine index 10
    return ((line.toOption.map ofBytes).getD "").toList.head?.any fun c => c = 'y' || c = 'Y'

/-- How the kind of a file is called. -/
def kindText (t : Tree) (l : Location) : String :=
  match t.get? l with
  | some .directory => "directory"
  | some (.link _) => "symbolic link"
  | some (.device (.queue _)) => "fifo"
  | some (.device .nothing) | some (.device .zeros) | some (.device .full) => "character special file"
  | some (.device _) => "character special file"
  | some (.file bytes _) => if bytes.isEmpty then "regular empty file" else "regular file"
  | none => "regular empty file"

/-- Take away what stands at a place and below it, and tell of it; `asks` is whether every
    step is confirmed first. -/
def removeBelow (p : Process) (name : String) (g : Given) (asks : Bool) :
    Nat → String → Location → Act Bool
  | 0, _, _ => return false
  | fuel + 1, path, l => do
    let t := (← get).files
    match t.get? l with
    | some .directory =>
      let inner := t.children l
      if asks && !inner.isEmpty then
        if !(← confirmed p (name ++ ": descend into directory " ++ shown path ++ "? ")) then
          return true
      let mut fine := true
      for (child, _) in inner do
        let ok ← removeBelow p name g asks fuel (inside path (spread child)) (l ++ [child])
        fine := fine && ok
      if asks then
        if !(← confirmed p (name ++ ": remove directory " ++ shown path ++ "? ")) then return true
      if !((← get).files.children l).isEmpty then
        if fine && !asks then return true
        return fine
      if l.head? == some "dev" || l.isEmpty then
        blame p name "cannot remove" path .busy
        return false
      System.remove l
      tell p g ("removed directory " ++ shown path)
      return fine
    | some _ =>
      if asks then
        let question := name ++ ": remove " ++ kindText t l ++ " " ++ shown path ++ "? "
        if !(← confirmed p question) then return true
      System.remove l
      tell p g ("removed " ++ shown path)
      return true
    | none => return true

/-- Take files away, and directories with all below them if asked. -/
def remove : Program :=
  withOptions ⟨['r', 'R', 'f', 'v', 'i', 'I', 'd'], [],
      [("--recursive", 'r'), ("--force", 'f'), ("--verbose", 'v'), ("--dir", 'd'),
        ("--interactive?", 'i'), ("--one-file-system", 'ο'), ("--no-preserve-root", 'π'),
        ("--preserve-root?", 'ρ')], false⟩ 1 fun p name g => do
    let last := (g.options.filter fun o => o.1 ∈ ['f', 'i', 'I']).getLast?
    let force := g.has 'f' && last.any (·.1 == 'f')
    let asks := last.any fun o => o.1 == 'i' && o.2 ∉ ["never", "no", "none"]
    let recursive := g.has 'r' || g.has 'R'
    if g.operands.isEmpty && !force then return ← misuse p name "missing operand" 1
    if last.any (·.1 == 'I') && (recursive || 3 < g.operands.length) then
      let count := toString g.operands.length ++ " argument" ++
        (if g.operands.length = 1 then "" else "s")
      let how := if recursive then " recursively? " else "? "
      if !(← confirmed p (name ++ ": remove " ++ count ++ how)) then return 0
    let fine ← eachFile g.operands fun path => do
      match ← found p false path with
      | .error e =>
        if force && (e == .notFound || e == .notADirectory) then return true
        blame p name "cannot remove" path e
        return false
      | .ok (l, .directory) =>
        let t := (← get).files
        let isLeaf := g.has 'd' && (t.children l).isEmpty
        if (recursive || g.has 'd') && isDots path then
          complain p name ("refusing to remove '.' or '..' directory: skipping " ++ shown path)
          return false
        if recursive && l.isEmpty && !g.has 'π' then
          complain p name ("it is dangerous to operate recursively on " ++ shown path)
          complain p name "use --no-preserve-root to override this failsafe"
          return false
        if recursive || isLeaf then
          let bare := String.ofList ((path.toList.reverse.dropWhile (· == '/')).reverse)
          return ← removeBelow p name g asks (t.entries.length + 2) (if bare = "" then path else bare) l
        blame p name "cannot remove" path (if g.has 'd' then .directoryNotEmpty else .isADirectory)
        return false
      | .ok (l, _) =>
        if path.endsWith "/" then
          blame p name "cannot remove" path .notADirectory
          return false
        if asks then
          let question := name ++ ": remove " ++ kindText (← get).files l ++ " " ++ shown path ++ "? "
          if !(← confirmed p question) then return true
        System.remove l
        tell p g ("removed " ++ shown path)
        return true
    return statusOf fine

/-- The time that a stamp of digits spells, in nanoseconds. -/
def stampTime? (now : Int) (text : String) : Option Int := do
  let (digits, second) ← match text.toList.splitOn '.' with
    | [ds] => some (ds, some 0)
    | [ds, s] => some (ds, number? (String.ofList s))
    | _ => none
  let second ← second
  if !digits.all Char.isDigit then none
  let part (start count : Nat) : Int := (Nat.ofDigitChars 10 ((digits.drop start).take count) 0 : Nat)
  let tail (k : Nat) (year : Int) : Option Int :=
    some (Moment.time ⟨year, part k 2, part (k + 2) 2, part (k + 4) 2, part (k + 6) 2, second, 0⟩)
  match digits.length with
  | 8 => tail 0 (Moment.ofTime now).year
  | 10 => tail 2 (if part 0 2 < 69 then 2000 + part 0 2 else 1900 + part 0 2)
  | 12 => tail 4 (part 0 4)
  | _ => none

/-- Make files that are not there, and give those that are another time. -/
def touch : Program :=
  withOptions ⟨['a', 'c', 'm', 'f', 'h'], ['d', 'r', 't', 'τ'],
      [("--no-create", 'c'), ("--date", 'd'), ("--reference", 'r'), ("--time", 'τ'),
        ("--no-dereference", 'h')], false⟩ 1
    fun p name g => do
      let now ← presentTime
      let time ← match (g.options.filter fun o => o.1 ∈ ['d', 'r', 't']).getLast? with
        | some ('d', text) =>
          match DateReading.time? now text with
          | some t => pure t
          | none =>
            complain p name ("invalid date format " ++ marked text)
            return 1
        | some ('t', text) =>
          match stampTime? now text with
          | some t => pure t
          | none =>
            complain p name ("invalid date format " ++ marked text)
            return 1
        | some (_, file) =>
          match ← found p true file with
          | .ok (l, _) => pure (Int.ofNat ((← get).files.attributesAt l).time)
          | .error e =>
            blame p name "failed to get attributes of" file e
            return 1
        | none => pure now
      if g.operands.isEmpty then return ← misuse p name "missing file operand" 1
      let fine ← eachFile g.operands fun path => do
        if path = "-" then return true
        let there := (← found p (!g.has 'h') path).toOption
        if there.isNone && !g.has 'c' then
          match ← p.openFile path .append with
          | .ok _ => pure ()
          | .error e =>
            blame p name (if path.endsWith "/" then "setting times of" else "cannot touch") path
              (if path.endsWith "/" then .notFound else e)
            return false
        match ← found p (!g.has 'h') path with
        | .ok (l, _) =>
          if !(g.has 'a' && !g.has 'm') then
            modify fun s => { s with files := s.files.setAttributes l ({ · with time := time.toNat }) }
          return true
        | .error _ => return true
      return statusOf fine

/-- Make pipes with names. -/
def makePipes : Program :=
  withOptions ⟨['Z'], ['m'], [("--mode", 'm')], false⟩ 1 fun p name g => do
    if g.operands.isEmpty then return ← misuse p name "missing operand" 1
    match givenMode g 'm' p.mask 0o666 false with
    | .error _ =>
      complain p name "invalid mode"
      return 1
    | .ok mode =>
      let fine ← eachFile g.operands fun path => do
        let s ← get
        match s.files.create p.working (Process.path path) with
        | .error e =>
          blame p name "cannot create fifo" path e
          return false
        | .ok (l, t) =>
          let n := s.pipes.size
          set { s with files := t.put l (.device (.queue n)), pipes := s.pipes.push (.ofBytes .empty) }
          settleNew p path (some (mode.getD (0o666 &&& (0o777 - p.mask))))
          return true
      return statusOf fine

/-- Letters and digits without any order. -/
def randomLetters (seed : Nat) : Nat → List Char
  | 0 => []
  | count + 1 =>
    let all := "abcdefghijklmnopqrstuvwxyzABCDEFGHIJKLMNOPQRSTUVWXYZ0123456789".toList
    let next := (seed * 6364136223846793005 + 1442695040888963407) % 18446744073709551616
    (all[next / 4294967296 % all.length]?.getD 'a') :: randomLetters next count

/-- A name that a template spells and that is not taken; `fuel` bounds the attempts. -/
def freeName (t : Tree) (p : Process) (before after : String) (count seed : Nat) : Nat → String
  | 0 => before ++ after
  | fuel + 1 =>
    let path := before ++ String.ofList (randomLetters (seed + fuel) count) ++ after
    if (t.entry p.working false (Process.path path)).toOption.isSome then
      freeName t p before after count seed fuel
    else path

/-- Make a file or a directory that nobody else uses. -/
def makeTemporary : Program :=
  withOptions ⟨['d', 'u', 'q', 't'], ['p', 'σ'],
      [("--directory", 'd'), ("--dry-run", 'u'), ("--quiet", 'q'), ("--tmpdir?", 'p'),
        ("--suffix", 'σ')], false⟩ 1 fun p name g => do
    match g.operands with
    | _ :: extra :: _ =>
      let _ := extra
      misuse p name "too many templates" 1
    | operands =>
      let failed (text : String) : Act Nat := do
        if !g.has 'q' then complain p name text
        return 1
      let template := operands.headD "tmp.XXXXXXXXXX"
      let suffix := (g.valueOf? 'σ').getD ""
      let cs := template.toList.reverse
      let tail := if g.has 'σ' then [] else cs.takeWhile (· ≠ 'X')
      let marks := (cs.drop tail.length).takeWhile (· == 'X')
      if g.has 'σ' && !template.endsWith "X" then
        return ← failed ("with --suffix, template " ++ shown template ++ " must end in X")
      if marks.length < 3 then
        return ← failed ("too few X's in template " ++ shown template)
      let ending := String.ofList tail.reverse ++ suffix
      if ending.contains '/' then
        return ← failed ("invalid suffix " ++ shown ending ++ ", contains directory separator")
      let inTemporary := operands.isEmpty || g.has 'p' || g.has 't'
      let place (value : Option String) : Option String := value.filter (· ≠ "")
      let directory := (place (g.valueOf? 'p')).getD ((place (p.valueOf? "TMPDIR")).getD "/tmp")
      if inTemporary && template.startsWith "/" then
        return ← failed ("invalid template, " ++ shown template ++ "; with --tmpdir, it may not be absolute")
      let before := String.ofList ((cs.drop (tail.length + marks.length)).reverse)
      let before := if inTemporary then inside directory before else before
      let s ← get
      let path := freeName s.files p before ending marks.length
        (s.clock * 31 + p.number * 1000003 + s.files.entries.length) 100
      let kind := if g.has 'd' then "directory" else "file"
      if !g.has 'u' then
        let made : Except Error Tree := do
          if g.has 'd' then s.files.makeDirectory p.working (Process.path path)
          else return (← s.files.create p.working (Process.path path)).2
        match made with
        | .ok files =>
          set { s with files }
          settleNew p path (some (if g.has 'd' then 0o700 else 0o600))
        | .error e =>
          let spelled := before ++ String.ofList marks ++ ending
          return ← failed ("failed to create " ++ kind ++ " via template " ++ shown spelled ++ ": " ++ e.text)
      p.say (path ++ "\n")
      return 0

/-- How the size of a file is changed. -/
inductive Resizing where
  | exact
  | more
  | less
  | atMost
  | atLeast
  | downTo
  | upTo

/-- The size that a file gets. -/
def Resizing.apply (r : Resizing) (n old : Nat) : Nat :=
  match r with
  | .exact => n
  | .more => old + n
  | .less => old - n
  | .atMost => min old n
  | .atLeast => max old n
  | .downTo => old / n * n
  | .upTo => (old + n - 1) / n * n

/-- The change of a size that a text spells. -/
def resizing? (text : String) : Option (Resizing × Nat) :=
  let cs := text.toList.dropWhile (· == ' ')
  let (r, rest) : Resizing × List Char := match cs with
    | '+' :: cs => (.more, cs)
    | '-' :: cs => (.less, cs)
    | '<' :: cs => (.atMost, cs)
    | '>' :: cs => (.atLeast, cs)
    | '/' :: cs => (.downTo, cs)
    | '%' :: cs => (.upTo, cs)
    | cs => (.exact, cs)
  if rest.head?.any Char.isDigit then (scaled? (String.ofList rest)).map (r, ·) else none

/-- Bytes cut short or filled up with zeros to a size. -/
def resized (bytes : ByteArray) (size : Nat) : ByteArray :=
  bytes.extract 0 size ++ ⟨Array.replicate (size - bytes.size) 0⟩

/-- Change the sizes of files. -/
def truncate : Program :=
  withOptions ⟨['c', 'o'], ['s', 'r'],
      [("--size", 's'), ("--reference", 'r'), ("--no-create", 'c'), ("--io-blocks", 'o')], false⟩ 1
    fun p name g => do
      let change ← match g.valueOf? 's' with
        | none => pure none
        | some text =>
          match resizing? text with
          | some change => pure (some change)
          | none =>
            complain p name ("Invalid number: " ++ marked text)
            return 1
      if change.isNone && !g.has 'r' then
        return ← misuse p name "you must specify either '--size' or '--reference'" 1
      if g.operands.isEmpty then return ← misuse p name "missing file operand" 1
      if change.any fun c => c.2 = 0 && (match c.1 with
          | .downTo | .upTo => true
          | _ => false) then
        complain p name "division by zero"
        return 1
      let base ← match g.valueOf? 'r' with
        | none => pure none
        | some file =>
          match ← found p true file with
          | .ok (_, .file bytes _) => pure (some bytes.size)
          | .ok _ => pure (some 0)
          | .error e =>
            blame p name "cannot stat" file e
            return 1
      let fine ← eachFile g.operands fun path => do
        if g.has 'c' && (← found p true path).toOption.isNone then return true
        match ← p.openFile path .update with
        | .error e =>
          complain p name ("cannot open " ++ shown path ++ " for writing: " ++ e.text)
          return false
        | .ok _ =>
          match ← found p true path with
          | .ok (l, .file bytes executable) =>
            let old := base.getD bytes.size
            let size := change.elim old fun c => c.1.apply c.2 old
            modify fun s => { s with files := s.files.put l (.file (resized bytes size) executable) }
            System.note l
            System.share l
            return true
          | _ => return true
      return statusOf fine

/-- Whether an argument is a change of a mode that starts with a hyphen. -/
def isModeRemoval (a : String) : Bool :=
  match a.toList with
  | '-' :: c :: cs => (c :: cs).all fun d => d ∈ ['r', 'w', 'x', 'X', 's', 't', '+', '=', ',', '-']
  | _ => false

/-- Change who may do what with files. -/
def changeMode : Program := fun p arguments =>
  let guarded := arguments.map fun a => if isModeRemoval a && a ≠ "--" then "\x00" ++ a else a
  withOptions ⟨['R', 'v', 'c', 'f'], ['ρ'],
      [("--recursive", 'R'), ("--verbose", 'v'), ("--changes", 'c'), ("--silent", 'f'),
        ("--quiet", 'f'), ("--reference", 'ρ'), ("--preserve-root", 'π')], false⟩ 1
    (fun p name g => do
      let operands := g.operands.map fun a => if a.startsWith "\x00" then (a.drop 1).copy else a
      let reference ← match g.valueOf? 'ρ' with
        | none => pure none
        | some file =>
          match ← found p true file with
          | .ok (l, _) => pure (some ((← get).files.modeAt l))
          | .error e =>
            blame p name "failed to get attributes of" file e
            return 1
      let (spelled, files) := if reference.isSome then ("", operands)
        else (operands.headD "", operands.drop 1)
      if operands.isEmpty then return ← misuse p name "missing operand" 1
      if files.isEmpty then return ← misuse p name ("missing operand after " ++ marked spelled) 1
      match reference.map (Mode.Change.octal · 5) <|> Mode.change? spelled with
      | none => misuse p name ("invalid mode: " ++ marked spelled) 1
      | some c =>
        let one (path : String) (l : Location) : Act Unit := do
          let t := (← get).files
          let old := t.modeAt l
          let new := c.apply p.mask old ((t.get? l).any isDirectoryEntry)
          modify fun s => { s with files := s.files.setMode l new }
          System.share l
          let told (n : Nat) : String := Mode.octalText 4 n ++ " (" ++ Mode.letters n ++ ")"
          if old ≠ new && (g.has 'v' || g.has 'c') then
            p.say ("mode of " ++ shown path ++ " changed from " ++ told old ++ " to " ++ told new ++ "\n")
          else if g.has 'v' then
            p.say ("mode of " ++ shown path ++ " retained as " ++ told old ++ "\n")
        let fine ← eachFile files fun path => do
          match ← found p true path with
          | .error e =>
            let hangs := (← found p false path).toOption.isSome
            if !g.has 'f' then
              if hangs then complain p name ("cannot operate on dangling symlink " ++ shown path)
              else blame p name "cannot access" path e
            if g.has 'v' && !hangs then
              p.say ("failed to change mode of " ++ shown path ++ " from 0000 (---------) to 0000 (---------)\n")
            return false
          | .ok (l, e) =>
            if g.has 'R' && isDirectoryEntry e then
              for v in visits (← get).files false (fun _ => true) path l e do
                match v.entry with
                | .link _ => pure ()
                | _ => if !v.leaves then one v.path v.location
            else one path l
            return true
        return statusOf fine) p guarded

/-- Give files to an owner, who is the only one. -/
def changeOwner : Program :=
  withOptions ⟨['R', 'v', 'c', 'f', 'h', 'H', 'L', 'P'], ['ρ'],
      [("--recursive", 'R'), ("--verbose", 'v'), ("--changes", 'c'), ("--silent", 'f'),
        ("--reference", 'ρ'), ("--no-dereference", 'h')], false⟩ 1 fun p name g => do
    let operands := if g.has 'ρ' then "root" :: g.operands else g.operands
    match operands with
    | [] => misuse p name "missing operand" 1
    | [owner] => misuse p name ("missing operand after " ++ marked owner) 1
    | owner :: files =>
      let isGroup := name.endsWith "chgrp"
      let parts := (owner.toList.map fun c => if c = '.' then ':' else c).splitOn ':'
      let isKnown (cs : List Char) : Bool :=
        cs.isEmpty || cs.all Char.isDigit || String.ofList cs ∈ ["root", "daemon", "bin", "sys", "nobody"]
      if !parts.all isKnown then
        let what := if isGroup then "invalid group: " else
          if isKnown (parts.headD []) then "invalid group: " else "invalid user: "
        complain p name (what ++ marked owner)
        return 1
      let fine ← eachFile files fun path => do
        match ← found p (!g.has 'h') path with
        | .ok _ => return true
        | .error e =>
          blame p name "cannot access" path e
          return false
      return statusOf fine

/-- Let a file stand under one more name. -/
def addName : Program :=
  withOptions ⟨[], [], [], true⟩ 1 fun p name g => do
    match g.operands with
    | [] => misuse p name "missing operand" 1
    | [only] => misuse p name ("missing operand after " ++ marked only) 1
    | _ :: _ :: extra :: _ => misuse p name ("extra operand " ++ marked extra) 1
    | [source, target] =>
      let failed (e : Error) : Act Nat := do
        complain p name ("cannot create link " ++ shown target ++ " to " ++ shown source ++ ": " ++ e.text)
        return 1
      match ← found p false source, (← get).files.locate p.working false (Process.path target) with
      | .error e, _ | _, .error e => failed e
      | .ok (_, .directory), _ => failed .notPermitted
      | .ok (l, _), .ok place =>
        if ((← get).files.get? place).isSome then failed .alreadyExists
        else
          System.addPlace l place
          return 0

/-- Take away a file. -/
def removeName : Program :=
  withOptions ⟨[], [], [], true⟩ 1 fun p name g => do
    match g.operands with
    | [] => misuse p name "missing operand" 1
    | _ :: extra :: _ => misuse p name ("extra operand " ++ marked extra) 1
    | [path] =>
      match ← found p false path with
      | .ok (_, .directory) =>
        blame p name "cannot unlink" path .isADirectory
        return 1
      | .ok (l, _) =>
        System.remove l
        return 0
      | .error e =>
        blame p name "cannot unlink" path e
        return 1

end CompileTree.Shell.Utility
