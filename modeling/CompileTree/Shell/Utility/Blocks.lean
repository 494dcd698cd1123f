import CompileTree.Shell.Utility.Calls
import CompileTree.Shell.Utility.Names
import CompileTree.Shell.Utility.Regex

/-! # Utilities for blocks

A stream is copied block by block, and files are cut into pieces that become files of
their own: by size, by number or where lines match.
-/

namespace CompileTree.Shell.Utility

open Files Text

/-- Write bytes as a file. -/
def storeFile (p : Process) (path : String) (bytes : ByteArray) : Act (Except Error Unit) := do
  match ← p.openFile path .write with
  | .error e => return .error e
  | .ok index => System.write p.number index bytes

/-- How a stream is copied. -/
structure BlockCopy where
  inputSize : Nat
  outputSize : Nat
  /-- Whether blocks are written as they were read. -/
  direct : Bool
  /-- How much is passed over, and how much is copied. -/
  skipped : Nat
  most : Option Nat
  /-- Whether what is copied is counted in bytes. -/
  mostInBytes : Bool
  conversions : List String

/-- A number as operands spell it: digits with multipliers, and factors between crosses. -/
def blockNumber? (text : String) : Option (Nat × Bool) :=
  let factors := text.splitOn "x"
  let one (t : String) : Option (Nat × Bool) :=
    let cs := t.toList
    let digits := cs.takeWhile Char.isDigit
    let n := Nat.ofDigitChars 10 digits 0
    if digits.isEmpty then none
    else match cs.drop digits.length with
      | ['B'] => some (n, true)
      | ['c'] => some (n, false)
      | ['w'] => some (2 * n, false)
      | suffix => (multiplier? suffix).map fun m => (n * m, false)
  (factors.mapM one).map fun ns => (ns.foldl (fun a b => a * b.1) 1, ns.any (·.2))

/-- Bytes after conversions. -/
def BlockCopy.convert (c : BlockCopy) (bytes : ByteArray) : ByteArray :=
  let has (name : String) : Bool := c.conversions.contains name
  let bytes := if has "sync" && bytes.size < c.inputSize then
      bytes ++ ⟨Array.replicate (c.inputSize - bytes.size) 0⟩ else bytes
  let rec swap : List UInt8 → List UInt8
    | a :: b :: rest => b :: a :: swap rest
    | rest => rest
  let bytes := if has "swab" then ⟨(swap bytes.toList).toArray⟩ else bytes
  let mapped (f : Char → Char) : ByteArray :=
    ⟨bytes.data.map fun b => (f (Char.ofNat b.toNat)).toNat.toUInt8⟩
  if has "ucase" then mapped fun c => if c.isLower then c.toUpper else c
  else if has "lcase" then mapped fun c => if c.isUpper then c.toLower else c
  else bytes

/-- How many blocks were read and written, whole ones and parts, and how many bytes. -/
structure BlockCounts where
  wholeIn : Nat
  partIn : Nat
  wholeOut : Nat
  partOut : Nat
  bytes : Nat
  /-- What was read and not written yet. -/
  held : ByteArray
  /-- A byte that waits for another one to change places with. -/
  spare : ByteArray := .empty

/-- Write what is held in blocks; the last one may be a part if nothing more comes. -/
def writeBlocks (p : Process) (output size : Nat) (finishes : Bool) :
    Nat → BlockCounts → Act (Except Error Unit × BlockCounts)
  | 0, n => return (.ok (), n)
  | fuel + 1, n => do
    if n.held.isEmpty || (n.held.size < size && !finishes) then return (.ok (), n)
    let count := min size n.held.size
    match ← System.write p.number output (n.held.extract 0 count) with
    | .error e => return (.error e, n)
    | .ok () =>
      let whole := count = size
      writeBlocks p output size finishes fuel { n with
        held := n.held.extract count n.held.size, bytes := n.bytes + count
        wholeOut := n.wholeOut + (if whole then 1 else 0)
        partOut := n.partOut + (if whole then 0 else 1) }

/-- Copy blocks until there are no more or enough were copied; what went wrong is returned,
    with whether that was while reading. -/
def copyBlocks (c : BlockCopy) (p : Process) (input output : Nat) :
    Nat → Nat → BlockCounts → Act (Option (Bool × Error) × BlockCounts)
  | 0, _, n => return (none, n)
  | fuel + 1, taken, n => do
    let finish : Act (Option (Bool × Error) × BlockCounts) := do
      let n := { n with held := n.held ++ n.spare, spare := .empty }
      match ← writeBlocks p output c.outputSize true (n.held.size + 1) n with
      | (.error e, n) => return (some (false, e), n)
      | (.ok (), n) => return (none, n)
    let blocks := n.wholeIn + n.partIn
    let size := match c.most with
      | some most =>
        if c.mostInBytes then min c.inputSize (most - taken)
        else if blocks < most then c.inputSize else 0
      | none => c.inputSize
    if size = 0 then return ← finish
    match ← System.readSome input size with
    | .error e =>
      match ← finish with
      | (none, n) => return (some (true, e), n)
      | r => return r
    | .ok bytes =>
      if bytes.isEmpty then return ← finish
      let whole := bytes.size = c.inputSize
      let all := n.spare ++ bytes
      let isOdd := c.conversions.contains "swab" && all.size % 2 = 1
      let count := if isOdd then all.size - 1 else all.size
      let n := { n with
        held := n.held ++ c.convert (all.extract 0 count), spare := all.extract count all.size
        wholeIn := n.wholeIn + (if whole then 1 else 0)
        partIn := n.partIn + (if whole then 0 else 1) }
      let size := if c.direct then max 1 n.held.size else c.outputSize
      match ← writeBlocks p output size c.direct (n.held.size + 1) n with
      | (.error e, n) => return (some (false, e), n)
      | (.ok (), after) =>
        let after := if c.direct then { after with
            wholeOut := n.wholeOut + (if n.held.size = c.outputSize then 1 else 0)
            partOut := n.partOut + (if n.held.size = c.outputSize then 0 else 1) }
          else after
        copyBlocks c p input output fuel (taken + bytes.size) after

/-- A number of bytes with one decimal and the letter of a power. -/
def powerText (base : Nat) (letters : List String) (n : Nat) : String :=
  let rec go : List String → Nat → String
    | [], unit => toString (n / unit) ++ " B"
    | letter :: rest, unit =>
      let tenths := (n * 10 + unit / 2) / unit
      if tenths < 10 * base || rest.isEmpty then
        if tenths < 100 then toString (tenths / 10) ++ "." ++ toString (tenths % 10) ++ " " ++ letter
        else toString ((n + unit / 2) / unit) ++ " " ++ letter
      else go rest (unit * base)
  go letters base

/-- What is told of the bytes that were copied. -/
def copiedText (bytes : Nat) (time : Nat) : String :=
  let si := powerText 1000 ["kB", "MB", "GB", "TB"] bytes
  let iec := powerText 1024 ["KiB", "MiB", "GiB", "TiB"] bytes
  let count := if bytes = 1 then "1 byte" else toString bytes ++ " bytes"
  let sizes := if bytes < 1000 then "" else if bytes < 1024 then " (" ++ si ++ ")"
    else " (" ++ si ++ ", " ++ iec ++ ")"
  let micros := time / 1000
  let digits := toString micros
  let seconds := toString (micros / 1000000) ++ "." ++
    ("".pushn '0' (6 - digits.length)) ++ toString (micros % 1000000)
  let rate := if time = 0 then "0.0 kB" else
    powerText 1000 ["kB", "MB", "GB", "TB"] (bytes * 1000000000 / time)
  count ++ sizes ++ " copied, " ++ seconds ++ " s, " ++ rate ++ "/s"

/-- Copy a stream block by block. -/
def copyStream : Program := fun p arguments => do
  let name := arguments.headD ""
  let hinted (text : String) : Act Nat := misuse p name text 1
  let refuse (text : String) : Act Nat := do
    complain p name text
    return 1
  let known := ["if", "of", "bs", "ibs", "obs", "cbs", "count", "skip", "seek", "iseek", "oseek",
    "conv", "status", "iflag", "oflag"]
  let mut given : List (String × String) := []
  for a in arguments.drop 1 do
    if a.startsWith "--" then return ← hinted ("unrecognized option '" ++ a ++ "'")
    let cs := a.toList
    let key := String.ofList (cs.takeWhile (· ≠ '='))
    if cs.contains '=' && known.contains key then
      given := (key, String.ofList (cs.drop (key.length + 1))) :: given
    else return ← hinted ("unrecognized operand " ++ shown a)
  let all (keys : List String) : List String :=
    ((given.filter fun g => keys.contains g.1).reverse.map fun g => g.2.splitOn ",").flatten
  let value? (keys : List String) : Option String := (given.find? fun g => keys.contains g.1).map (·.2)
  let conversions := all ["conv"]
  for c in conversions do
    if c ∉ ["notrunc", "ucase", "lcase", "swab", "sync", "noerror", "excl", "nocreat", "fsync",
        "fdatasync", "block", "unblock", "ascii", "ebcdic", "ibm", "sparse"] then
      return ← hinted ("invalid conversion: " ++ shown c)
  for s in (value? ["status"]).toList do
    if s ∉ ["none", "noxfer", "progress"] then return ← hinted ("invalid status level: " ++ shown s)
  for (key, v) in given.reverse do
    if key ∈ ["bs", "ibs", "obs", "cbs", "count", "skip", "seek", "iseek", "oseek"] then
      let isSize := key ∈ ["bs", "ibs", "obs", "cbs"]
      if !(blockNumber? v).any fun n => !isSize || n.1 ≠ 0 then
        return ← refuse ("invalid number: " ++ shown v)
  if conversions.contains "lcase" && conversions.contains "ucase" then
    return ← refuse "cannot combine lcase and ucase"
  let number (keys : List String) : Option (Nat × Bool) := (value? keys).bind blockNumber?
  let block := (number ["bs"]).map (·.1)
  let inputSize := block.getD (((number ["ibs"]).map (·.1)).getD 512)
  let outputSize := block.getD (((number ["obs"]).map (·.1)).getD 512)
  let inputFlags := all ["iflag"]
  let bytesOf (keys : List String) (size : Nat) (flag : Bool) : Nat :=
    (number keys).elim 0 fun (n, isBytes) => if isBytes || flag then n else n * size
  let c : BlockCopy := {
    inputSize, outputSize, direct := block.isSome
    skipped := bytesOf ["skip", "iseek"] inputSize (inputFlags.contains "skip_bytes")
    most := (number ["count"]).map (·.1)
    mostInBytes := inputFlags.contains "count_bytes" || (number ["count"]).any (·.2)
    conversions }
  let source := value? ["if"]
  let input ← match source with
    | some file => p.openFile file .read
    | none => pure ((p.descriptors.lookup 0).elim (.error .badDescriptor) .ok)
  match input with
  | .error e => refuse ("failed to open " ++ shown (source.getD "standard input") ++ ": " ++ e.text)
  | .ok input =>
    let seek := bytesOf ["seek", "oseek"] outputSize (((all ["oflag"]).contains "seek_bytes"))
    let keeps := conversions.contains "notrunc"
    let output ← match value? ["of"] with
      | none => pure ((p.descriptors.lookup 1).elim (.error .badDescriptor) .ok)
      | some file => do
        let there ← found p true file
        if conversions.contains "nocreat" && there.toOption.isNone then pure (.error .notFound)
        else if conversions.contains "excl" then p.openFile file .fresh
        else if (all ["oflag"]).contains "append" then p.openFile file .append
        else if keeps || (seek ≠ 0 && there.toOption.isSome) then p.openFile file .update
        else p.openFile file .write
    match output with
    | .error e => refuse ("failed to open " ++ shown ((value? ["of"]).getD "standard output") ++ ": " ++ e.text)
    | .ok output =>
      if seek ≠ 0 then
        let cutAt (t : Tree) (l : Location) : Tree :=
          match t.get? l with
          | some (.file bytes executable) => t.put l (.file (bytes.extract 0 seek) executable)
          | _ => t
        modify fun s =>
          match s.openFiles[output]? with
          | some f =>
            let files := match f.endpoint with
              | .file l => if keeps then s.files else cutAt s.files l
              | _ => s.files
            { s with files, openFiles := s.openFiles.set! output { f with position := f.position + seek } }
          | none => s
      let start := (← get).clock
      let passed ← pass input c.skipped (c.skipped + 1)
      if passed < c.skipped then
        complain p name (shownName source ++ ": cannot skip to specified offset")
      let (failure, n) ← copyBlocks c p input output System.turnLimit 0 ⟨0, 0, 0, 0, 0, .empty, .empty⟩
      match failure with
      | some (true, e) => complain p name ("error reading " ++ shown (source.getD "standard input") ++ ": " ++ e.text)
      | some (false, e) =>
        complain p name ("error writing " ++ shown ((value? ["of"]).getD "standard output") ++ ": " ++ e.text)
      | none => pure ()
      let status := (value? ["status"]).getD ""
      if status ≠ "none" then
        p.complain (toString n.wholeIn ++ "+" ++ toString n.partIn ++ " records in")
        p.complain (toString n.wholeOut ++ "+" ++ toString n.partOut ++ " records out")
        if status ≠ "noxfer" then
          p.complain (copiedText n.bytes ((← get).clock - start))
      return if failure.isSome then 1 else 0
where
  shownName (source : Option String) : String := source.elim "'standard input'" shownIfNeeded
  pass (input count : Nat) : Nat → Act Nat
    | 0 => return 0
    | fuel + 1 => do
      if count = 0 then return 0
      match ← System.readSome input (min count System.blockSize) with
      | .ok bytes => if bytes.isEmpty then return 0 else return bytes.size + (← pass input (count - bytes.size) fuel)
      | .error _ => return 0

/-- Names of pieces: a start, and an ending that counts on. -/
structure PieceNames where
  start : String
  length : Nat
  /-- Whether endings grow longer when there are no more. -/
  grows : Bool
  digits : List Char
  first : Nat
  suffix : String

/-- A number in given digits. -/
def spelledIn (digits : List Char) (width n : Nat) : List Char :=
  match width with
  | 0 => []
  | width + 1 =>
    spelledIn digits width (n / digits.length) ++ [digits.getD (n % digits.length) '0']

/-- The name of a piece, if there are enough endings. -/
def PieceNames.name? (s : PieceNames) (i : Nat) : Option String :=
  let base := s.digits.length
  let i := i + s.first
  if !s.grows then
    if Nat.pow base s.length ≤ i then none
    else some (s.start ++ String.ofList (spelledIn s.digits s.length i) ++ s.suffix)
  else
    let rec grown (width i : Nat) (lead : List Char) : Nat → List Char
      | 0 => lead
      | fuel + 1 =>
        let room := (base - 1) * Nat.pow base (width - 1)
        if i < room then lead ++ spelledIn s.digits width i
        else grown (width + 1) (i - room) (lead ++ [s.digits.getLastD 'z']) fuel
    some (s.start ++ String.ofList (grown s.length i [] (i + 1)) ++ s.suffix)

/-- Lines with their ends. -/
def wholeLines (lineEnd : Char) (text : String) : List (List Char) :=
  let parts := text.toList.splitOn lineEnd
  let ended := parts.dropLast.map (· ++ [lineEnd])
  match parts.getLast? with
  | some (c :: cs) => ended ++ [c :: cs]
  | _ => ended

/-- A list in pieces of a size. -/
def inPieces {α : Type} (size : Nat) : Nat → List α → List (List α)
  | 0, _ => []
  | fuel + 1, xs =>
    if xs.isEmpty then [] else xs.take size :: inPieces size fuel (xs.drop size)

/-- Lines gathered as long as they fit into a size. -/
def fittingLines (size : Nat) : Nat → List Char → List (List Char) → List (List Char)
  | 0, held, _ => if held.isEmpty then [] else [held]
  | _ + 1, held, [] => if held.isEmpty then [] else [held]
  | fuel + 1, held, line :: rest =>
    if held.length + line.length ≤ size then fittingLines size fuel (held ++ line) rest
    else if held.isEmpty then line.take size :: fittingLines size fuel [] (line.drop size :: rest)
    else held :: fittingLines size fuel [] (line :: rest)

/-- A text cut into a number of pieces: of bytes, of whole lines, or of lines in turn. -/
def pieceKinds (kind : String) (count : Nat) (text : String) (lineEnd : Char) : List (List Char) :=
  let cs := text.toList
  let size := cs.length
  match kind with
  | "l" =>
    let lines := wholeLines lineEnd text
    let starts := lines.foldl (fun (found, at_) line => (found ++ [(at_, line)], at_ + line.length)) (([] : List (Nat × List Char)), 0)
    let chunk := max 1 (size / count)
    (List.range count).map fun k =>
      (starts.1.filter fun (at_, _) => min (at_ / chunk) (count - 1) == k).flatMap (·.2)
  | "r" =>
    let lines := (wholeLines lineEnd text).zipIdx
    (List.range count).map fun k => (lines.filter fun (_, i) => i % count == k).flatMap (·.1)
  | _ =>
    let chunk := size / count
    let more := size % count
    let startOf (k : Nat) : Nat := k * chunk + min k more
    (List.range count).map fun k => (cs.drop (startOf k)).take (startOf (k + 1) - startOf k)

/-- Cut a file into pieces that become files of their own. -/
def split : CallingProgram := fun call p arguments => do
  let name := arguments.headD ""
  let allowed : Allowed := ⟨['d', 'x', 'e', 'u', '0', '1', '2', '3', '4', '5', '6', '7', '8', '9'],
    ['a', 'b', 'C', 'l', 'n', 't', 'σ', 'φ'],
    [("--suffix-length", 'a'), ("--additional-suffix", 'σ'), ("--bytes", 'b'), ("--line-bytes", 'C'),
      ("--lines", 'l'), ("--number", 'n'), ("--numeric-suffixes?", 'd'), ("--hex-suffixes?", 'x'),
      ("--elide-empty-files", 'e'), ("--filter", 'φ'), ("--separator", 't'), ("--unbuffered", 'u'),
      ("--verbose", 'v')], false⟩
  let refuse (text : String) : Act ExitStatus := do
    complain p name text
    return .exited 1
  match allowed.separate (arguments.drop 1) with
  | .error text => return .exited (← misuse p name text 1)
  | .ok g =>
    if let extra :: _ := g.operands.drop 2 then
      return .exited (← misuse p name ("extra operand " ++ shown extra) 1)
    let digits := String.ofList ((g.options.filter fun o => o.1.isDigit).map (·.1))
    let file := g.operands.headD "-"
    let lineEnd := ((g.valueOf? 't').bind fun v => if v = "\\0" then some '\x00' else v.toList.head?).getD '\n'
    let isNumeric := g.has 'd'
    let firstText := ((g.valueOf? 'd').or (g.valueOf? 'x')).getD ""
    let names : PieceNames := {
      start := (g.operands[1]?).getD "x"
      length := (((g.valueOf? 'a').bind number?).filter (· ≠ 0)).getD (max 2 firstText.length)
      grows := !(((g.valueOf? 'a').bind number?).any (· ≠ 0)) && firstText = "" && !g.has 'n'
      digits := if isNumeric then "0123456789".toList
        else if g.has 'x' then "0123456789abcdef".toList else "abcdefghijklmnopqrstuvwxyz".toList
      first := (number? firstText).getD 0
      suffix := (g.valueOf? 'σ').getD "" }
    let wrong (what value : String) : Act ExitStatus := refuse ("invalid number of " ++ what ++ ": " ++ shown value)
    let size (letter : Char) : Option Nat := ((g.valueOf? letter).bind scaled?).filter (· ≠ 0)
    let how := (g.options.filter fun o => o.1 ∈ ['b', 'C', 'l', 'n']).getLast?
    match how with
    | some ('b', v) => if (size 'b').isNone then return ← wrong "bytes" v
    | some ('C', v) => if (size 'C').isNone then return ← wrong "bytes" v
    | some ('l', v) => if (size 'l').isNone then return ← wrong "lines" v
    | some ('n', v) =>
      if !((v.splitOn "/").getLast?.bind number?).any (· ≠ 0) then return ← wrong "chunks" v
    | _ => pure ()
    match ← content p file with
    | .error e => refuse ("cannot open " ++ shown file ++ " for reading: " ++ e.text)
    | .ok text =>
      let cs := text.toList
      let bound := cs.length + 2
      let (pieces, only) : List (List Char) × Option Nat := match how with
        | some ('b', _) => (inPieces ((size 'b').getD 1) bound cs, none)
        | some ('C', _) => (fittingLines ((size 'C').getD 1) (2 * bound) [] (wholeLines lineEnd text), none)
        | some ('n', v) =>
          match v.splitOn "/" with
          | [n] => (pieceKinds "" ((number? n).getD 1) text lineEnd, none)
          | [k, n] =>
            if k = "l" || k = "r" then (pieceKinds k ((number? n).getD 1) text lineEnd, none)
            else (pieceKinds "" ((number? n).getD 1) text lineEnd, number? k)
          | [kind, k, n] => (pieceKinds kind ((number? n).getD 1) text lineEnd, number? k)
          | _ => ([], none)
        | _ =>
          let count := ((size 'l').or ((number? digits).filter (· ≠ 0))).getD 1000
          ((inPieces count bound (wholeLines lineEnd text)).map List.flatten, none)
      if let some k := only then
        p.say (String.ofList (pieces.getD (k - 1) []))
        return .exited 0
      let mut i := 0
      for piece in pieces do
        if !(g.has 'e' && piece.isEmpty) then
          match names.name? i with
          | none => return ← refuse "output file suffixes exhausted"
          | some path =>
            let bytes := toBytes (String.ofList piece)
            match g.valueOf? 'φ' with
            | some command =>
              p.flush
              let child ← p.child
              let child := { child with environment := ("FILE", path) :: child.environment.filter (·.1 ≠ "FILE") }
              let index ← System.addDocument bytes
              let _ ← p.carryOut (child.withDescriptor 0 index) (call (child.withDescriptor 0 index) "sh" ["sh", "-c", command])
            | none =>
              if g.has 'v' then p.say ("creating file " ++ shown path ++ "\n")
              match ← storeFile p path bytes with
              | .ok () => pure ()
              | .error e => return ← refuse (path ++ ": " ++ e.text)
            i := i + 1
      return .exited 0

/-- Where a file is cut. -/
inductive Cut where
  /-- Before a line of a number. -/
  | line (n : Nat)
  /-- At a line that matches, moved by a number of lines; `drops` tells whether the lines up
      to there are left out. -/
  | matching (r : Regex) (offset : Int) (drops : Bool)

/-- A cut with how it was spelled, and how often it is repeated, where nothing stands for as
    often as can be. -/
structure Cuts where
  spelled : String
  cut : Cut
  times : Option Nat

/-- The cut that an operand spells. -/
def Cut.read (text : String) : Except String Cut :=
  let cs := text.toList
  match cs with
  | mark :: rest =>
    if mark = '/' ∨ mark = '%' then
      let body := (rest.reverse.dropWhile (· ≠ mark)).drop 1 |>.reverse
      let offset := rest.drop (body.length + 1)
      if !rest.contains mark then .error (text ++ ": closing delimiter '" ++ String.singleton mark ++ "' missing")
      else
        match (Regex.Dialect.seeking false).read body with
        | .error e => .error (shown text ++ ": invalid regular expression: " ++ e)
        | .ok (r, _) =>
          let digits := match offset with
            | '+' :: ds => some (1, ds)
            | '-' :: ds => some (-1, ds)
            | [] => some ((1 : Int), ['0'])
            | ds => some (1, ds)
          match digits with
          | some (sign, ds) =>
            match number? (String.ofList ds) with
            | some n => .ok (.matching r (sign * n) (mark = '%'))
            | none => .error (shown text ++ ": integer expected after delimiter")
          | none => .error (shown text ++ ": integer expected after delimiter")
    else
      match number? text with
      | some 0 => .error (shown text ++ ": line number must be greater than zero")
      | some n => .ok (.line n)
      | none => .error (shown text ++ ": invalid pattern")
  | [] => .error "'': invalid pattern"

/-- The cuts that operands spell. -/
def Cuts.read : List String → Except String (List Cuts)
  | [] => .ok []
  | [text] => return [⟨text, ← Cut.read text, some 0⟩]
  | text :: times :: others => do
    let cut ← Cut.read text
    if times.startsWith "\x7b" then
      let inner := ((times.drop 1).copy.dropEnd 1).copy
      if !times.endsWith "\x7d" then throw (times ++ ": '\x7d' is required in repeat count")
      let rest ← Cuts.read others
      if inner = "*" then return ⟨text, cut, none⟩ :: rest
      match number? inner with
      | some n => return ⟨text, cut, some n⟩ :: rest
      | none => throw (shown (times.dropEnd 1).copy ++ "\x7d: integer required between '\x7b' and '\x7d'")
    else return ⟨text, cut, some 0⟩ :: (← Cuts.read (times :: others))

/-- What cutting has come to: the lines that are left with the number of the first one, the
    line at which a search goes on, and the pieces so far. -/
structure CutState where
  lines : List (List Char)
  number : Nat
  reached : Nat
  pieces : List (List Char)

/-- Cut once more; `round` tells how often that was done before. What is wrong is returned. -/
def Cut.apply (c : Cuts) (suppresses : Bool) (round : Nat) (st : CutState) :
    Except (String × CutState) CutState :=
  let again := if round = 0 then "" else " on repetition " ++ toString round
  let taken (count : Nat) (drops : Bool) (st : CutState) : CutState := { st with
    lines := st.lines.drop count, number := st.number + count
    pieces := if drops then st.pieces else st.pieces ++ [(st.lines.take count).flatten] }
  let dropOne (st : CutState) : CutState :=
    if suppresses then { st with lines := st.lines.drop 1, number := st.number + 1 } else st
  match c.cut with
  | .line n =>
    let target := n * (round + 1)
    let count := target - st.number
    let out := (shown (toString n) ++ ": line number out of range" ++ again)
    if st.lines.length < count then .error (out, taken st.lines.length false st)
    else
      let st := taken count false st
      let isOver := st.lines.isEmpty
      let st := dropOne st
      if isOver then .error (out, st) else .ok { st with reached := max st.reached st.number }
  | .matching r offset drops =>
    let skip := st.reached + 1 - st.number
    match (st.lines.drop skip).findIdx? fun line =>
        r.occurs id (String.ofList (line.filter (· ≠ '\n'))) with
    | none => .error (shown c.spelled ++ ": match not found" ++ again, taken st.lines.length drops st)
    | some i =>
      let found := st.number + skip + i
      let target : Int := found + offset
      let count := (target - st.number).toNat
      if target < st.number || st.lines.length < count then
        .error (shown c.spelled ++ ": line number out of range" ++ again, st)
      else
        let st := dropOne (taken count drops st)
        .ok { st with reached := if 0 < offset then target.toNat else found }

/-- Cut as often as is asked for; `fuel` bounds that. What is wrong is returned with it. -/
def Cuts.apply (suppresses : Bool) (c : Cuts) : Nat → Nat → CutState → Option String × CutState × Bool
  | 0, _, st => (none, st, false)
  | fuel + 1, round, st =>
    if c.times.any (· < round) then (none, st, false)
    else
      match Cut.apply c suppresses round st with
      | .ok st => Cuts.apply suppresses c fuel (round + 1) st
      | .error (text, after) =>
        if c.times.isNone then (none, after, true) else (some text, after, true)

/-- Cut a file where lines match. -/
def splitByContext : Program :=
  withOptions ⟨['k', 's', 'q', 'z'], ['b', 'f', 'n'],
      [("--suffix-format", 'b'), ("--prefix", 'f'), ("--keep-files", 'k'), ("--digits", 'n'),
        ("--quiet", 's'), ("--silent", 's'), ("--elide-empty-files", 'z'),
        ("--suppress-matched", 'μ')], false⟩ 1 fun p name g => do
    match g.operands with
    | [] => misuse p name "missing operand" 1
    | [file] => misuse p name ("missing operand after " ++ shown file) 1
    | file :: spelled =>
      let refuse (text : String) : Act Nat := do
        complain p name text
        return 1
      match Cuts.read spelled with
      | .error text => refuse text
      | .ok cuts =>
        let numbers := cuts.filterMap fun c =>
          match c.cut with
          | .line n => some n
          | _ => none
        if let some (a, b) := (numbers.zip (numbers.drop 1)).find? fun (a, b) => b < a then
          return ← refuse ("line number " ++ shown (toString b) ++
            " is smaller than preceding line number, " ++ toString a)
        match ← content p file with
        | .error e => refuse ("cannot open " ++ shown file ++ " for reading: " ++ e.text)
        | .ok text =>
          let lines := wholeLines '\n' text
          let mut st : CutState := ⟨lines, 1, 0, []⟩
          let mut wrong : Option String := none
          let mut ended := false
          for c in cuts do
            if !ended then
              let (text, after, isOver) := Cuts.apply (g.has 'μ') c (lines.length + (c.times.getD 0) + 2) 0 st
              st := after
              wrong := text
              ended := isOver
          let pieces := if ended then st.pieces else st.pieces ++ [st.lines.flatten]
          let digits := ((g.valueOf? 'n').bind number?).getD 2
          let nameOf (i : Nat) : String :=
            let n := toString i
            (g.valueOf? 'f').getD "xx" ++ (match g.valueOf? 'b' with
              | some format => numbered format.toList i
              | none => "".pushn '0' (digits - n.length) ++ n)
          let mut i := 0
          let mut made : List String := []
          for piece in pieces do
            if !(g.has 'z' && piece.isEmpty) then
              let path := nameOf i
              match ← storeFile p path (toBytes (String.ofList piece)) with
              | .ok () => pure ()
              | .error e => return ← refuse (path ++ ": " ++ e.text)
              if !(g.has 's' || g.has 'q') then p.say (toString piece.length ++ "\n")
              made := path :: made
              i := i + 1
          match wrong with
          | none => return 0
          | some text =>
            p.complain (name ++ ": " ++ text)
            if !g.has 'k' then
              for path in made do
                if let .ok (l, _) ← found p false path then System.remove l
            return 1
where
  /-- A number in a format that has one directive. -/
  numbered (format : List Char) (n : Nat) : String :=
    let start := format.takeWhile (· ≠ '%')
    match format.drop (start.length + 1) with
    | [] => String.ofList start
    | rest =>
      let flags := rest.takeWhile fun c => c.isDigit
      let base := match rest.drop flags.length with
        | 'x' :: _ => 16
        | 'o' :: _ => 8
        | _ => 10
      let text := String.ofList (Nat.toDigits base n)
      let fill := if flags.head? == some '0' then '0' else ' '
      let width := Nat.ofDigitChars 10 flags 0
      String.ofList start ++ "".pushn fill (width - text.length) ++ text ++
        String.ofList (rest.drop (flags.length + 1))

end CompileTree.Shell.Utility
