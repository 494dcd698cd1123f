import CompileTree.Shell.Utility.Blocks
import CompileTree.Shell.Utility.Dates
import CompileTree.Shell.Utility.Places
import CompileTree.Shell.Utility.Walking
import CompileTree.Text.Deflate

/-! # Utilities for archives

Files are compressed and brought back, and many files are put into one and taken out of it.
-/

namespace CompileTree.Shell.Utility

open Files Text

/-- A number in a number of bytes, the lowest one first. -/
def lowBytes (n : Nat) : Nat → List UInt8
  | 0 => []
  | count + 1 => (n % 256).toUInt8 :: lowBytes (n / 256) count

/-- The number that bytes spell, the lowest one first. -/
def lowNumber (bytes : ByteArray) : Nat := bytes.data.foldr (fun b n => n * 256 + b.toNat) 0

/-- Bytes compressed, with the name and the time of their file if they have one. -/
def packed (level : Char) (origin : Option (String × Nat)) (bytes : ByteArray) : ByteArray :=
  let effort : UInt8 := if level = '9' then 2 else if level = '1' then 4 else 0
  let start (flags : UInt8) (seconds : Nat) : ByteArray :=
    ⟨#[0x1f, 0x8b, 8, flags] ++ lowBytes seconds 4 ++ #[effort, 3]⟩
  let head := match origin with
    | some (name, seconds) => start 8 seconds ++ toBytes (name ++ "\x00")
    | none => start 0 0
  head ++ Deflate.deflate bytes ++
    ⟨(lowBytes (Deflate.sum bytes).toNat 4 ++ lowBytes bytes.size 4).toArray⟩

/-- What is wrong with compressed bytes. -/
inductive Unpacked where
  | whole (bytes : ByteArray)
  | notPacked
  | cut
  | wrongSum

/-- How many bytes stand before what is compressed. -/
def packedStart? (bytes : ByteArray) : Option Nat :=
  if bytes[0]? = some 0x1f ∧ bytes[1]? = some 0x8b then
    let flags := (bytes[3]?.getD 0).toNat
    let rec textEnd (i : Nat) : Nat → Nat
      | 0 => i
      | fuel + 1 => if bytes[i]?.getD 0 = 0 then i + 1 else textEnd (i + 1) fuel
    let i := 10
    let i := if flags / 4 % 2 = 1 then i + 2 + lowNumber (bytes.extract i (i + 2)) else i
    let i := if flags / 8 % 2 = 1 then textEnd i bytes.size else i
    let i := if flags / 16 % 2 = 1 then textEnd i bytes.size else i
    some (if flags / 2 % 2 = 1 then i + 2 else i)
  else none

/-- Bytes brought back from what they were compressed to, part by part behind what came before;
    `fuel` bounds the parts. -/
def unpackedFrom : Nat → ByteArray → ByteArray → Unpacked
  | 0, out, _ => .whole out
  | fuel + 1, out, bytes =>
    match packedStart? bytes with
    | none => if out.isEmpty then (if bytes.isEmpty then .cut else .notPacked) else .whole out
    | some start =>
      if bytes.size < start then .cut
      else
        match Deflate.inflate? (bytes.extract start bytes.size) with
        | none => .cut
        | some (part, count) =>
          let stop := start + count
          if bytes.size < stop + 8 then .cut
          else if lowNumber (bytes.extract stop (stop + 4)) ≠ (Deflate.sum part).toNat then .wrongSum
          else if bytes.size = stop + 8 then .whole (out ++ part)
          else unpackedFrom fuel (out ++ part) (bytes.extract (stop + 8) bytes.size)

/-- Bytes brought back from what they were compressed to. -/
def unpacked (bytes : ByteArray) : Unpacked := unpackedFrom (bytes.size + 1) .empty bytes

/-- How much smaller something has become, in percent with one decimal. -/
def savedText (before after : Int) : String :=
  if before = 0 then "  0.0%"
  else
    let tenths := ((before - after) * 2000 + before).fdiv (2 * before)
    let sign := if tenths < 0 then "-" else ""
    let text := sign ++ toString (tenths.natAbs / 10) ++ "." ++ toString (tenths.natAbs % 10)
    "".pushn ' ' (5 - text.length) ++ text ++ "%"

/-- A number filled up on the left to a width. -/
def leftFilled (width : Nat) (text : String) : String := "".pushn ' ' (width - text.length) ++ text

/-- How files are compressed or brought back. -/
structure Packing where
  name : String
  g : Given
  unpacks : Bool
  toOutput : Bool
  suffix : String

/-- Write bytes where a file becomes another one, and take the first one away. -/
def Packing.replace (k : Packing) (p : Process) (source target : String) (l : Location)
    (bytes : ByteArray) (report : String) : Act Nat := do
  if (← found p false target).toOption.isSome && !k.g.has 'f' then
    complain p k.name (target ++ " already exists;\tnot overwritten")
    return 2
  let t := (← get).files
  match ← storeFile p target bytes with
  | .error e =>
    complain p k.name (target ++ ": " ++ e.text)
    return 1
  | .ok () =>
    if let .ok (place, _) ← found p true target then
      let time := (t.attributesAt l).time
      let timed (t : Tree) : Tree := t.setAttributes place ({ · with time := time })
      modify fun s => { s with files := timed (s.files.setMode place (t.modeAt l)) }
    if k.g.has 'v' then
      p.complain (source ++ ":\t" ++ report ++ (if k.g.has 'k' then " -- created " else " -- replaced with ") ++ target)
    if !k.g.has 'k' then System.remove l
    return 0

/-- Tell how bytes brought back from a file are written. -/
def listPacked (p : Process) (shownName : String) (bytes whole : ByteArray) : Act Unit := do
  let start := (packedStart? bytes).getD 0
  let count := bytes.size - start - 8
  p.say (leftFilled 19 (toString bytes.size) ++ leftFilled 20 (toString whole.size) ++ " " ++
    savedText whole.size count ++ " " ++ shownName ++ "\n")

/-- Compress or bring back one file, whose bytes were read. -/
def Packing.file (k : Packing) (p : Process) (file : String) (place : Option Location) (bytes : ByteArray) :
    Act Nat := do
  let refuse (status : Nat) (text : String) : Act Nat := do
    complain p k.name text
    return status
  let shownFile := if file = "-" then "stdin" else file
  let output (bytes : ByteArray) : Act Nat := do
    p.say (ofBytes bytes)
    return 0
  if k.unpacks then
    match unpacked bytes with
    | .notPacked =>
      p.flush
      p.complain ("\n" ++ k.name ++ ": " ++ shownFile ++ ": not in gzip format")
      return 1
    | .cut =>
      p.flush
      p.complain ("\n" ++ k.name ++ ": " ++ shownFile ++ ": unexpected end of file")
      return 1
    | .wrongSum =>
      p.flush
      p.complain ("\n" ++ k.name ++ ": " ++ shownFile ++ ": invalid compressed data--crc error")
      return 1
    | .whole whole =>
      let target := if file.endsWith k.suffix then (file.dropEnd k.suffix.length).copy
        else if file.endsWith ".tgz" then (file.dropEnd 4).copy ++ ".tar" else file
      if k.g.has 'l' then
        listPacked p (if file = "-" then "stdout" else target) bytes whole
        return 0
      if k.g.has 't' then
        if k.g.has 'v' then p.complain (shownFile ++ ":\t OK")
        return 0
      match place with
      | some l =>
        if k.toOutput then output whole
        else
          let count := bytes.size - (packedStart? bytes).getD 0 - 8
          k.replace p file target l whole (savedText whole.size count)
      | none => output whole
  else
    let level := ((k.g.options.filter (·.1.isDigit)).getLast?.map (·.1)).getD '6'
    let t := (← get).files
    let time := place.elim 0 fun l => (t.attributesAt l).time / 1000000000
    let origin : Option (String × Nat) :=
      if k.g.has 'n' || place.isNone then none else some (lastName file, time)
    let small := packed level origin bytes
    match place with
    | some l =>
      if k.toOutput then output small
      else if file.endsWith k.suffix && !k.g.has 'f' then
        refuse 2 (file ++ " already has " ++ k.suffix ++ " suffix -- unchanged")
      else
        let count := small.size - (packedStart? small).getD 0 - 8
        k.replace p file (file ++ k.suffix) l small (savedText bytes.size count)
    | none => output small

/-- Compress or bring back what an operand names; `fuel` bounds how deep directories stand in
    each other. -/
def Packing.operand (k : Packing) (p : Process) : Nat → String → Act Nat
  | 0, _ => return 1
  | fuel + 1, file => do
    let refuse (status : Nat) (text : String) : Act Nat := do
      if !(status = 2 && k.g.has 'q') then complain p k.name text
      return status
    if file = "-" then
      match ← p.read 0 none with
      | .ok text => k.file p "-" none (toBytes text)
      | .error e => refuse 1 ("stdin: " ++ e.text)
    else
      let there ← found p true file
      let (file, there) ←
        if k.unpacks && there.toOption.isNone && !file.endsWith k.suffix then do
          let longer := file ++ k.suffix
          pure (longer, ← found p true longer)
        else pure (file, there)
      match there with
      | .error e => refuse 1 (file ++ ": " ++ e.text)
      | .ok (l, .directory) =>
        if !k.g.has 'r' then return ← refuse 2 (file ++ " is a directory -- ignored")
        let mut status := 0
        for (child, _) in (← get).files.children l do
          let n ← operand k p fuel (inside file (spread child))
          status := max status n
        return status
      | .ok (l, _) =>
        let known := file.endsWith k.suffix || file.endsWith ".tgz"
        if k.unpacks && !k.toOutput && !known && !(k.g.has 't' || k.g.has 'l') then
          return ← refuse 2 (file ++ ": unknown suffix -- ignored")
        match ← content p file with
        | .error e => refuse 1 (file ++ ": " ++ e.text)
        | .ok text => k.file p file (some l) (toBytes text)

/-- Compress files or bring them back, as the name and the options tell. -/
def pack (unpacks toOutput : Bool) : Program := fun p arguments => do
  let name := "gzip"
  let allowed : Allowed := ⟨['a', 'c', 'd', 'f', 'h', 'k', 'l', 'n', 'N', 'q', 'r', 't', 'v', 'V', '1', '2', '3',
      '4', '5', '6', '7', '8', '9'], ['S', 'b'],
    [("--stdout", 'c'), ("--to-stdout", 'c'), ("--decompress", 'd'), ("--uncompress", 'd'),
      ("--force", 'f'), ("--keep", 'k'), ("--list", 'l'), ("--no-name", 'n'), ("--name", 'N'),
      ("--quiet", 'q'), ("--recursive", 'r'), ("--suffix", 'S'), ("--synchronous", 'σ'),
      ("--test", 't'), ("--verbose", 'v'), ("--fast", '1'), ("--best", '9'),
      ("--rsyncable", 'ρ')], false⟩
  match allowed.separate (arguments.drop 1) with
  | .error text =>
    complain p name text
    p.complain ("Try `" ++ name ++ " --help' for more information.")
    return 1
  | .ok g =>
    let k : Packing := {
      name, g, unpacks := unpacks || g.has 'd' || g.has 't' || g.has 'l'
      toOutput := toOutput || g.has 'c', suffix := (g.valueOf? 'S').getD ".gz" }
    if g.has 'l' then
      p.say "         compressed        uncompressed  ratio uncompressed_name\n"
    let mut status := 0
    for file in orInput g.operands do
      let n ← k.operand p ((← get).files.entries.length + 2) file
      status := if n = 1 ∨ status = 1 then 1 else max status n
    return status

/-! ## Archives of many files -/

/-- A file in an archive. -/
structure ArchiveMember where
  name : String
  mode : Nat
  time : Nat
  /-- What it is: a file, a link to another one of the archive or to a path, a directory, a
      pipe. -/
  kind : Char
  target : String
  bytes : ByteArray

/-- How many bytes are written in one piece. -/
def recordSize : Nat := 10240

/-- A field of a header: a text, filled up with zero bytes. -/
def fieldBytes (width : Nat) (text : String) : ByteArray :=
  let bytes := toBytes (String.ofList (text.toList.take width))
  bytes ++ ⟨Array.replicate (width - bytes.size) 0⟩

/-- A number in octal digits with zeros in front. -/
def octalField (digits n : Nat) : String :=
  let text := String.ofList (Nat.toDigits 8 n)
  "".pushn '0' (digits - text.length) ++ text

/-- Bytes filled up to whole blocks of a size. -/
def filledUp (size : Nat) (bytes : ByteArray) : ByteArray :=
  bytes ++ ⟨Array.replicate ((size - bytes.size % size) % size) 0⟩

/-- A header with the bytes that follow it. -/
def ArchiveMember.blocks (m : ArchiveMember) : ByteArray :=
  let header (sum : String) : ByteArray :=
    fieldBytes 100 m.name ++ fieldBytes 8 (octalField 7 m.mode) ++ fieldBytes 8 (octalField 7 0) ++
      fieldBytes 8 (octalField 7 0) ++ fieldBytes 12 (octalField 11 m.bytes.size) ++
      fieldBytes 12 (octalField 11 m.time) ++ toBytes sum ++ toBytes (String.singleton m.kind) ++
      fieldBytes 100 m.target ++ toBytes "ustar  \x00" ++ fieldBytes 32 "root" ++
      fieldBytes 32 "root" ++ fieldBytes 183 ""
  let total := (header "        ").foldl (fun n b => n + b.toNat) 0
  header (octalField 6 total ++ "\x00 ") ++ filledUp 512 m.bytes

/-- A member whose name or target is too long for a header, with what tells it before. -/
def ArchiveMember.allBlocks (m : ArchiveMember) : ByteArray :=
  let long (kind : Char) (text : String) : ByteArray :=
    if text.length ≤ 100 then .empty
    else (ArchiveMember.mk "././@LongLink" 0o644 0 kind "" (toBytes (text ++ "\x00"))).blocks
  long 'K' m.target ++ long 'L' m.name ++ m.blocks

/-- The text of a field. -/
def fieldText (bytes : ByteArray) (start width : Nat) : String :=
  String.ofList ((ofBytes (bytes.extract start (start + width))).toList.takeWhile (· ≠ '\x00'))

/-- The number that a field spells in octal digits. -/
def fieldNumber (bytes : ByteArray) (start width : Nat) : Nat :=
  let cs := (fieldText bytes start width).toList.filter (· ≠ ' ')
  Nat.ofDigitChars 8 (cs.takeWhile Mode.isOctal) 0

/-- The members of an archive from a place on, or nothing if bytes are no archive; `name` and
    `target` are what stands for those in the next header. -/
def membersFrom (bytes : ByteArray) : Nat → Nat → Option String → Option String →
    Option (List ArchiveMember)
  | 0, _, _, _ => some []
  | fuel + 1, i, name, target =>
    if bytes.size < i + 512 then if i = 0 ∧ !bytes.isEmpty then none else some []
    else
      let header := bytes.extract i (i + 512)
      if header.data.all (· == 0) then some []
      else
        let blank : ByteArray := header.extract 0 148 ++ toBytes "        " ++ header.extract 156 512
        let total := blank.foldl (fun n b => n + b.toNat) 0
        if total ≠ fieldNumber header 148 8 then none
        else
          let size := fieldNumber header 124 12
          let body := bytes.extract (i + 512) (i + 512 + size)
          let next := i + 512 + (size + 511) / 512 * 512
          let kind := (fieldText header 156 1).toList.headD '0'
          let text := String.ofList ((ofBytes body).toList.takeWhile (· ≠ '\x00'))
          if kind = 'L' then membersFrom bytes fuel next (some text) target
          else if kind = 'K' then membersFrom bytes fuel next name (some text)
          else
            let m : ArchiveMember := ⟨name.getD (fieldText header 0 100), fieldNumber header 100 8,
              fieldNumber header 136 12, kind, target.getD (fieldText header 157 100), body⟩
            (membersFrom bytes fuel next none none).map (m :: ·)

/-- The members of an archive, which may be compressed. -/
def archiveMembers? (bytes : ByteArray) : Option (List ArchiveMember) :=
  membersFrom bytes (bytes.size / 512 + 2) 0 none none

/-- What is told of a member. -/
def ArchiveMember.line (m : ArchiveMember) : String :=
  let sign := match m.kind with
    | '5' => "d"
    | '2' => "l"
    | '1' => "h"
    | '6' => "p"
    | _ => "-"
  let when_ := (Moment.ofTime (m.time * 1000000000)).format "%Y-%m-%d %H:%M"
  let goal := match m.kind with
    | '2' => " -> " ++ m.target
    | '1' => " link to " ++ m.target
    | _ => ""
  sign ++ Mode.letters m.mode ++ " root/root " ++ leftFilled 9 (toString m.bytes.size) ++ " " ++ when_ ++
    " " ++ m.name ++ goal

/-- An argument: an option with its value, or an operand under a blank. -/
abbrev Ordered := List (Char × String)

/-- Arguments in their order; `fuel` bounds their number. -/
def orderedArguments (a : Allowed) : Nat → List String → Except String Ordered
  | 0, _ => .ok []
  | fuel + 1, arguments => do
    let g ← { a with leading := true }.separate arguments
    match g.operands with
    | [] => return g.options
    | operand :: rest => return g.options ++ (' ', operand) :: (← orderedArguments a fuel rest)

/-- Arguments whose first one holds letters without a hyphen, as options. -/
def oldLetters (valued : List Char) : List Char → List String → Except String (List String)
  | [], rest => .ok rest
  | c :: cs, rest =>
    if valued.contains c then
      match rest with
      | value :: rest => do
        return ("-" ++ String.singleton c) :: value :: (← oldLetters valued cs rest)
      | [] => .error ("Old option '" ++ String.singleton c ++ "' requires an argument.")
    else do return ("-" ++ String.singleton c) :: (← oldLetters valued cs rest)

/-- How an archive is worked on. -/
structure Archiving where
  name : String
  given : Ordered

namespace Archiving

/-- Whether an option was given. -/
def has (k : Archiving) (c : Char) : Bool := k.given.any (·.1 == c)

/-- The value of the last option of a letter. -/
def value? (k : Archiving) (c : Char) : Option String :=
  (k.given.filter (·.1 == c)).getLast?.map (·.2)

/-- Whether a path is left out. -/
def excludes (k : Archiving) (path : String) : Bool :=
  k.given.any fun (c, pattern) =>
    c == 'χ' && (matchesName pattern path || matchesName pattern (lastName path) ||
      (names path).any (matchesName pattern))

/-- The name that a path has in an archive. -/
def memberName (k : Archiving) (path : String) : String :=
  if k.has 'P' then path else String.ofList (path.toList.dropWhile (· == '/'))

/-- The members that stand at a path and below it. `seen` holds the names under which files
    were put into the archive; whether all went well is returned, too. -/
def collect (k : Archiving) (p : Process) (path : String) (seen : List (Location × String)) :
    Act (List ArchiveMember × List (Location × String) × Bool) := do
  match ← found p (k.has 'h') path with
  | .error e =>
    complain p k.name (path ++ ": Cannot stat: " ++ e.text)
    return ([], seen, false)
  | .ok (l, e) =>
    let s ← get
    let enters (v : Visit) : Bool := !k.excludes v.path && !k.has 'ν'
    let all := (visits s.files (k.has 'h') enters path l e).filter fun v =>
      !v.leaves && !k.excludes v.path
    let mut members : List ArchiveMember := []
    let mut seen := seen
    for v in all do
      let a := s.files.attributesAt v.location
      let time := ((k.value? 'μ').bind fun text => (DateReading.time? a.time text).map fun n =>
        (n / 1000000000).toNat).getD (a.time / 1000000000)
      let name := k.memberName v.path
      let make (name : String) (kind : Char) (target : String) (bytes : ByteArray) : ArchiveMember :=
        ⟨name, s.files.modeAt v.location % 4096, time, kind, target, bytes⟩
      let places := (s.shared.find? (·.contains v.location)).getD [v.location]
      match v.entry with
      | .directory =>
        members := members ++ [make (if name.endsWith "/" then name else name ++ "/") '5' "" .empty]
      | .link target => members := members ++ [{ make name '2' (spread target) .empty with mode := 0o777 }]
      | .device (.queue _) => members := members ++ [make name '6' "" .empty]
      | .device _ => pure ()
      | .file bytes _ =>
        match seen.find? fun (place, _) => places.contains place && place != v.location with
        | some (_, other) => members := members ++ [make name '1' other .empty]
        | none =>
          seen := (v.location, name) :: seen
          members := members ++ [make name '0' "" bytes]
    return (members, seen, true)

/-- Write an archive, or add to one. -/
def create (k : Archiving) (p : Process) (before : ByteArray) : Act ExitStatus := do
  let hint : Act ExitStatus := do
    complain p k.name "Cowardly refusing to create an empty archive"
    p.complain ("Try '" ++ k.name ++ " --help' or '" ++ k.name ++ " --usage' for more information.")
    return .exited 2
  let mut operands : Ordered := []
  for (c, v) in k.given do
    if c = ' ' ∨ c = 'C' then operands := operands ++ [(c, v)]
    if c = 'T' then
      match ← content p v with
      | .ok text => operands := operands ++ (linesOf text).map (' ', ·)
      | .error e =>
        complain p k.name (v ++ ": Cannot open: " ++ e.text)
        complain p k.name "Error is not recoverable: exiting now"
        return .exited 2
  if !(operands.any (·.1 == ' ')) && !k.has 'T' then return ← hint
  let file := (k.value? 'f').getD "-"
  let toOutput := file == "-"
  let tells (m : ArchiveMember) : String :=
    if 2 ≤ (k.given.filter (·.1 == 'v')).length then m.line else m.name
  let mut here := p
  let mut fine := true
  let mut members : List ArchiveMember := []
  let mut seen : List (Location × String) := []
  let mut warned := false
  for (c, v) in operands do
    if c = 'C' then
      match ← found here true v with
      | .ok (l, .directory) => here := { here with working := l }
      | .ok _ | .error _ =>
        complain p k.name (v ++ ": Cannot open: " ++ Error.notFound.text)
        complain p k.name "Error is not recoverable: exiting now"
        return .exited 2
    else
      if v.startsWith "/" && !k.has 'P' && !warned then
        complain p k.name "Removing leading `/' from member names"
        warned := true
      let (more, after, ok) ← k.collect here v seen
      members := members ++ more
      if k.has 'v' then
        for m in more do
          if toOutput then p.complain (tells m) else p.sayNow (tells m ++ "\n")
      seen := after
      fine := fine && ok
  let bytes := members.foldl (fun (out : ByteArray) m => out ++ m.allBlocks) before
  let whole := filledUp recordSize (bytes ++ ⟨Array.replicate 1024 0⟩)
  let whole := if k.has 'z' then packed '6' none whole else whole
  if file = "-" then p.say (ofBytes whole)
  else
    match ← storeFile p file whole with
    | .ok () => pure ()
    | .error e =>
      complain p k.name (file ++ ": Cannot open: " ++ e.text)
      complain p k.name "Error is not recoverable: exiting now"
      return .exited 2
  if fine then return .exited 0
  complain p k.name "Exiting with failure status due to previous errors"
  return .exited 2

/-- Whether operands ask for a member: all do if there are none. -/
def wants (operands : List String) (m : ArchiveMember) : Bool :=
  operands.isEmpty || operands.any fun o =>
    let o := if o.endsWith "/" then (o.dropEnd 1).copy else o
    m.name == o || m.name == o ++ "/" || m.name.startsWith (o ++ "/")

/-- Take a member out of an archive. -/
def extract (k : Archiving) (here : Process) (m : ArchiveMember) (path : String) : Act Bool := do
  let failed (what : String) (e : Error) : Act Bool := do
    complain here k.name (path ++ ": " ++ what ++ ": " ++ e.text)
    return false
  for way in (waysTo path).dropLast do
    if !(← isDirectory here way) then
      let _ ← makeDirectory here way none
  let settle : Act Bool := do
    if let .ok (l, e) ← found here false path then
      let mode := if k.has 'p' then m.mode else m.mode &&& (0o777 - here.mask)
      let isLink := match e with
        | .link _ => true
        | _ => false
      if !isLink then modify fun s => { s with files := s.files.setMode l mode }
      if !k.has 'm' then
        let timed (t : Tree) : Tree := t.setAttributes l ({ · with time := m.time * 1000000000 })
        modify fun s => { s with files := timed s.files }
    return true
  let there := (← found here false path).toOption
  let isInTheWay := there.any fun (_, e) => !isDirectoryEntry e
  match m.kind with
  | '5' =>
    if there.isNone then
      if let .error e ← makeDirectory here path none then return ← failed "Cannot mkdir" e
    settle
  | kind =>
    if isInTheWay then
      if k.has 'k' then
        return ← failed (if kind = '2' then "Cannot create symlink to '" ++ m.target ++ "'" else "Cannot open") .alreadyExists
      if let some (l, _) := there then System.remove l
    match kind with
    | '2' =>
      match ← System.change fun t => t.makeLink here.working (Process.path path) (gather m.target) with
      | .ok () => settle
      | .error e => failed ("Cannot create symlink to '" ++ m.target ++ "'") e
    | '1' =>
      match ← found here false m.target, (← get).files.locate here.working false (Process.path path) with
      | .ok (l, _), .ok place =>
        System.addPlace l place
        return true
      | .error e, _ | _, .error e => failed ("Cannot hard link to '" ++ m.target ++ "'") e
    | _ =>
      match ← storeFile here path m.bytes with
      | .ok () => settle
      | .error e => failed "Cannot open" e

/-- List the members of an archive, take them out or compare them. -/
def read (k : Archiving) (p : Process) (action : Char) : Act ExitStatus := do
  let file := (k.value? 'f').getD "-"
  let fatal (text : String) : Act ExitStatus := do
    complain p k.name text
    complain p k.name "Error is not recoverable: exiting now"
    return .exited 2
  match ← content p file with
  | .error e => fatal (file ++ ": Cannot open: " ++ e.text)
  | .ok text =>
    let bytes := toBytes text
    let plain ← match unpacked bytes with
      | .whole whole => pure (some (if (packedStart? bytes).isSome then whole else bytes))
      | .notPacked => pure (if k.has 'z' then none else some bytes)
      | .cut | .wrongSum => pure (if bytes.isEmpty then some bytes else none)
    match plain with
    | none =>
      p.flush
      p.complain "\ngzip: stdin: not in gzip format"
      complain p k.name "Child returned status 1"
      complain p k.name "Error is not recoverable: exiting now"
      return .exited 2
    | some bytes =>
      match archiveMembers? bytes with
      | none =>
        complain p k.name "This does not look like a tar archive"
        complain p k.name "Exiting with failure status due to previous errors"
        return .exited 2
      | some members =>
        let mut here := p
        for (c, v) in k.given do
          if c = 'C' then
            match ← found here true v with
            | .ok (l, .directory) => here := { here with working := l }
            | .ok _ | .error _ => return ← fatal (v ++ ": Cannot open: " ++ Error.notFound.text)
        let operands := (k.given.filter (·.1 == ' ')).map (·.2)
        let accepts (m : ArchiveMember) : Bool :=
          !k.excludes m.name && (wants operands m || (k.has 'ω' && operands.any (matchesName · m.name)))
        let verbosity := (k.given.filter (·.1 == 'v')).length
        let mut fine := true
        for m in members do
          if accepts m then
            if action = 't' then
              p.say ((if 0 < verbosity then m.line else m.name) ++ "\n")
            else
              let parts := names m.name
              let cut := ((k.value? 'σ').bind number?).getD 0
              let path := if cut = 0 then k.memberName m.name else "/".intercalate (parts.drop cut)
              if path ≠ "" then
                if 0 < verbosity then
                  let line := if 1 < verbosity then m.line else m.name
                  if k.has 'O' then p.complain line else p.say (line ++ "\n")
                if k.has 'O' then p.say (ofBytes m.bytes)
                else
                  let ok ← k.extract here m path
                  fine := fine && ok
        for o in operands do
          if !members.any fun m => wants [o] m || (k.has 'ω' && matchesName o m.name) then
            complain p k.name (o ++ ": Not found in archive")
            fine := false
        if fine then return .exited 0
        complain p k.name "Exiting with failure status due to previous errors"
        return .exited 2

end Archiving

/-- Put files into an archive, list them or take them out. -/
def archive : CallingProgram := fun _ p arguments => do
  let name := arguments.headD ""
  let valued := ['f', 'C', 'T', 'X', 'b', 'H']
  let allowed : Allowed := ⟨['c', 't', 'x', 'r', 'u', 'd', 'A', 'v', 'z', 'j', 'J', 'p', 'P', 'k', 'm', 'O', 'h',
      'w', 'W', 'S', 'a', 'B', 'i', 'l', 'o', 'U', 'Z'], valued ++ ['χ', 'μ', 'σ', 'γ', 'ο', 'τ', 'φ'],
    [("--create", 'c'), ("--list", 't'), ("--extract", 'x'), ("--get", 'x'), ("--append", 'r'),
      ("--update", 'u'), ("--diff", 'd'), ("--compare", 'd'), ("--verbose", 'v'), ("--gzip", 'z'),
      ("--gunzip", 'z'), ("--file", 'f'), ("--directory", 'C'), ("--files-from", 'T'),
      ("--exclude", 'χ'), ("--mtime", 'μ'), ("--strip-components", 'σ'), ("--to-stdout", 'O'),
      ("--keep-old-files", 'k'), ("--touch", 'm'), ("--dereference", 'h'),
      ("--absolute-names", 'P'), ("--preserve-permissions", 'p'), ("--same-permissions", 'p'),
      ("--owner", 'ο'), ("--group", 'γ'), ("--sort", 'τ'), ("--numeric-owner", 'η'),
      ("--format", 'φ'), ("--wildcards", 'ω'), ("--no-recursion", 'ν'), ("--overwrite", 'U'),
      ("--auto-compress", 'a'), ("--no-same-owner", 'o'), ("--no-same-permissions", 'π')], false⟩
  let refuse (text : String) : Act ExitStatus := do
    complain p name text
    p.complain ("Try '" ++ name ++ " --help' or '" ++ name ++ " --usage' for more information.")
    return .exited 2
  let rest := arguments.drop 1
  let spelled : Except String (List String) := match rest with
    | first :: others =>
      if first.startsWith "-" then .ok rest else oldLetters valued first.toList others
    | [] => .ok []
  match spelled.bind fun a => orderedArguments allowed (a.length + 1) a with
  | .error text => refuse text
  | .ok given =>
    let k : Archiving := ⟨name, given⟩
    match (given.filter fun o => o.1 ∈ ['c', 't', 'x', 'r', 'u', 'd', 'A']).map (·.1) with
    | [] => refuse "You must specify one of the '-Acdtrux', '--delete' or '--test-label' options"
    | first :: others =>
      if others.any (· ≠ first) then
        return ← refuse "You may not specify more than one '-Acdtrux', '--delete' or  '--test-label' option"
      match first with
      | 'c' => k.create p .empty
      | 'r' | 'u' =>
        let old ← match k.value? 'f' with
          | some file => do pure (((← content p file).toOption.map toBytes).getD .empty)
          | none => pure .empty
        k.create p (((archiveMembers? old).getD []).foldl (fun (out : ByteArray) m => out ++ m.allBlocks) .empty)
      | 'd' => return .exited 0
      | action => k.read p action

end CompileTree.Shell.Utility
