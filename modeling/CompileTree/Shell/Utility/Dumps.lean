import CompileTree.Shell.Floating
import CompileTree.Shell.Utility.Streams
import CompileTree.Text.Hex

/-! # Utilities that spell bytes

Bytes are shown as numbers or characters, line by line with their positions, or spelled in
letters and digits and read back from them.
-/

namespace CompileTree.Shell.Utility

open Files Text

/-- How bytes are shown: as characters, as names, or as numbers of a base and a size. -/
inductive DumpKind where
  | characters
  | names
  | unsigned (base size : Nat)
  | signed (size : Nat)
  | floating (size : Nat)
  deriving DecidableEq

/-- The names of characters that cannot be seen. -/
def controlNames : List String :=
  ["nul", "soh", "stx", "etx", "eot", "enq", "ack", "bel", "bs", "ht", "nl", "vt", "ff", "cr", "so",
    "si", "dle", "dc1", "dc2", "dc3", "dc4", "nak", "syn", "etb", "can", "em", "sub", "esc", "fs",
    "gs", "rs", "us", "sp"]

namespace DumpKind

/-- How many bytes are shown together. -/
def size : DumpKind → Nat
  | .characters | .names => 1
  | .unsigned _ size | .signed size | .floating size => size

/-- How wide a field is, with the blank before it. -/
def width : DumpKind → Nat
  | .characters | .names => 4
  | .unsigned 8 size => (8 * size + 2) / 3 + 1
  | .unsigned 16 size => 2 * size + 1
  | .unsigned _ size => (toString (Nat.pow 256 size - 1)).length + 1
  | .signed size => (toString (Nat.pow 256 size / 2)).length + 2
  | .floating 4 => 16
  | .floating _ => 25

/-- The number that bytes stand for, the first one counting least. -/
def number (bytes : List UInt8) : Nat := bytes.foldr (fun b n => 256 * n + b.toNat) 0

/-- Digits of a number, filled up with zeros. -/
def digits (base width n : Nat) : String :=
  let cs := Nat.toDigits base n
  String.ofList (List.replicate (width - cs.length) '0' ++ cs)

/-- A floating number of 64 or 32 bits. -/
def floatingOf (size n : Nat) : Floating :=
  let (digits, exponents, bias) : Nat × Nat × Int := if size = 4 then (23, 8, 149) else (52, 11, 1074)
  let mantissa := n % Nat.pow 2 digits
  let exponent := n / Nat.pow 2 digits % Nat.pow 2 exponents
  let negative := n / Nat.pow 2 (digits + exponents) = 1
  if exponent = Nat.pow 2 exponents - 1 then
    if mantissa = 0 then .infinite negative else .undefined negative
  else if exponent = 0 then .finite negative mantissa (-bias)
  else .finite negative (mantissa + Nat.pow 2 digits) (exponent - 1 - bias)

/-- The shortest digits that stand for a floating number and no other one. -/
def shortest (size n : Nat) : String :=
  let x := floatingOf size n
  let f : Floating.Precision := if size = 4 then ⟨24, -149, 128⟩ else .double
  let shown (p : Nat) : List Char :=
    (if x.isNegative then ['-'] else []) ++ x.display f 'g' false (some p)
  let isExact (p : Nat) : Bool :=
    match Floating.read f (shown p) with
    | some r => r.value == x
    | none => true
  String.ofList (shown (((List.range 17).find? fun k => isExact (k + 1)).getD 16 + 1))

/-- How bytes are shown. -/
def text (k : DumpKind) (bytes : List UInt8) : String :=
  let n := number bytes
  match k with
  | .characters =>
    match n with
    | 0 => "\\0"
    | 7 => "\\a"
    | 8 => "\\b"
    | 9 => "\\t"
    | 10 => "\\n"
    | 11 => "\\v"
    | 12 => "\\f"
    | 13 => "\\r"
    | n => if 32 ≤ n && n < 127 then String.singleton (Char.ofNat n) else digits 8 3 n
  | .names =>
    let n := n % 128
    if n = 127 then "del" else (controlNames[n]?).getD (String.singleton (Char.ofNat n))
  | .unsigned 10 _ => toString n
  | .unsigned base _ => digits base (k.width - 1) n
  | .signed size =>
    let half := Nat.pow 256 size / 2
    toString (if n < half then (n : Int) else (n : Int) - Nat.pow 256 size)
  | .floating size => shortest size n

/-- The kinds that a text spells, with whether the characters are shown at the end; `fuel`
    bounds their number. -/
def ofText? : Nat → List Char → Option (List (DumpKind × Bool))
  | 0, _ => none
  | _, [] => some []
  | fuel + 1, c :: cs =>
    let sized (usual : Nat) (make : Nat → DumpKind) : Option (List (DumpKind × Bool)) :=
      let (size, rest) : Nat × List Char := match cs with
        | 'C' :: rest => (1, rest)
        | 'S' :: rest => (2, rest)
        | 'I' :: rest => (4, rest)
        | 'L' :: rest => (8, rest)
        | 'F' :: rest => (4, rest)
        | 'D' :: rest => (8, rest)
        | cs =>
          let ds := cs.takeWhile Char.isDigit
          (if ds.isEmpty then usual else Nat.ofDigitChars 10 ds 0, cs.drop ds.length)
      if size ∉ [1, 2, 4, 8] then none
      else
        let (tail, rest) := match rest with
          | 'z' :: rest => (true, rest)
          | rest => (false, rest)
        (ofText? fuel rest).map ((make size, tail) :: ·)
    match c with
    | 'a' => (ofText? fuel cs).map ((.names, false) :: ·)
    | 'c' => (ofText? fuel cs).map ((.characters, false) :: ·)
    | 'o' => sized 4 (.unsigned 8)
    | 'u' => sized 4 (.unsigned 10)
    | 'x' => sized 4 (.unsigned 16)
    | 'd' => sized 4 .signed
    | 'f' => sized 8 .floating
    | _ => none

end DumpKind

/-- How bytes are dumped. -/
structure Dump where
  kinds : List (DumpKind × Bool)
  width : Nat
  /-- The base of positions, if they are shown. -/
  base : Option Nat
  /-- Whether lines that repeat the one before them are all shown. -/
  verbose : Bool
  bigEnd : Bool

namespace Dump

/-- A position as it is shown. -/
def position (d : Dump) (n : Nat) : String :=
  match d.base with
  | some base => DumpKind.digits base (if base = 16 then 6 else 7) n
  | none => ""

/-- Bytes in groups of a size, the last one filled up with zeros; `fuel` bounds their number. -/
def groups (size : Nat) : Nat → List UInt8 → List (List UInt8)
  | 0, _ | _, [] => []
  | fuel + 1, bytes =>
    let part := bytes.take size
    (part ++ List.replicate (size - part.length) 0) :: groups size fuel (bytes.drop size)

/-- The lines for some bytes, of which each kind has one. -/
def lines (d : Dump) (place : Nat) (bytes : List UInt8) : List String :=
  let blockWidth := (d.kinds.map fun (k, _) => k.width * (d.width / k.size)).foldl max 0
  d.kinds.zipIdx.map fun ((k, tail), i) =>
    let fields := d.width / k.size
    let pad := blockWidth - k.width * fields
    let cells := ((groups k.size (bytes.length + 1) bytes).zipIdx).map fun (group, j) =>
      let text := k.text (if d.bigEnd then group.reverse else group)
      let left := fields - j
      let width := k.width + (pad * left / fields - pad * (left - 1) / fields)
      "".pushn ' ' (width - text.length) ++ text
    let start := if i = 0 then d.position place else "".pushn ' ' (d.position place).length
    let shown := String.ofList (bytes.map fun b =>
      if 32 ≤ b && b < 127 then Char.ofNat b.toNat else '.')
    let used := (cells.map (·.length)).foldl (· + ·) 0
    start ++ String.join cells ++
      (if tail then "".pushn ' ' (blockWidth - used) ++ "  >" ++ shown ++ "<" else "")

/-- Write bytes; `fuel` bounds how many lines there are. -/
def write (d : Dump) (p : Process) : Nat → Nat → List UInt8 → Option (List UInt8) → Bool → Act Unit
  | 0, _, _, _, _ => return
  | fuel + 1, place, bytes, before, starred => do
    if bytes.isEmpty || (← isLost p) then return
    let part := bytes.take d.width
    if !d.verbose && before == some part && part.length = d.width && d.width < bytes.length + d.width then
      if !starred then p.say "*\n"
      d.write p fuel (place + d.width) (bytes.drop d.width) before true
    else
      for line in d.lines place part do p.say (line ++ "\n")
      d.write p fuel (place + part.length) (bytes.drop d.width) (some part) false

end Dump

/-- Read files behind each other, at most as many bytes as asked for. -/
def readAll (p : Process) (name : String) : List String → Option Nat → ByteArray → Bool →
    Act (ByteArray × Bool)
  | [], _, before, fine => return (before, fine)
  | file :: rest, limit, before, fine => do
    if limit.any (· ≤ before.size) then return (before, fine)
    match ← openSource p file with
    | .error e =>
      complain p name (shownIfNeeded file ++ ": " ++ e.text)
      readAll p name rest limit before false
    | .ok index =>
      let room (have_ : Nat) : Nat := limit.elim System.blockSize fun n => min System.blockSize (n - have_)
      let result ← foldLimited room index System.turnLimit before
      match result with
      | .ok bytes => readAll p name rest limit bytes fine
      | .error e =>
        complain p name ((if file = "-" then "standard input" else shownIfNeeded file) ++ ": read error: " ++ e.text)
        readAll p name rest limit before false
where
  foldLimited (room : Nat → Nat) (index : Nat) : Nat → ByteArray → Act (Except Error ByteArray)
    | 0, before => return .ok before
    | fuel + 1, before => do
      if room before.size = 0 then return .ok before
      match ← System.readSome index (room before.size) with
      | .error e => return .error e
      | .ok part =>
        if part.isEmpty then return .ok before
        foldLimited room index fuel (before ++ part)

/-- Show bytes as numbers or characters. -/
def dump : Program :=
  withOptions ⟨['v', 'a', 'b', 'c', 'd', 'o', 'x', 'h', 'i', 'l', 's', 'e', 'f', 'D', 'O', 'X', 'H', 'B'],
      ['A', 't', 'N', 'j', 'w', 'ε'],
      [("--address-radix", 'A'), ("--format", 't'), ("--read-bytes", 'N'), ("--skip-bytes", 'j'),
        ("--width?", 'ω'), ("--output-duplicates", 'v'), ("--endian", 'ε')], false⟩ 1 fun p name g => do
    let short (letter : Char) : Option String := match letter with
      | 'a' => some "a"
      | 'b' => some "o1"
      | 'c' => some "c"
      | 'd' => some "u2"
      | 'o' | 'B' => some "o2"
      | 'x' | 'h' => some "x2"
      | 'X' | 'H' => some "x4"
      | 'D' => some "u4"
      | 'O' => some "o4"
      | 'i' => some "d4"
      | 'l' => some "d8"
      | 's' => some "d2"
      | 'f' => some "f4"
      | 'e' => some "f8"
      | _ => none
    let spelled := g.options.filterMap fun (letter, value) =>
      if letter = 't' then some value else short letter
    let mut kinds : List (DumpKind × Bool) := []
    for text in if spelled.isEmpty then ["o2"] else spelled do
      match DumpKind.ofText? (text.length + 1) text.toList with
      | some ks => kinds := kinds ++ ks
      | none =>
        let isKnown (c : Char) : Bool := c.isDigit || c ∈ "acdfouxzCSILFDH".toList
        match text.toList.find? (!isKnown ·) with
        | some c =>
          complain p name ("invalid character '" ++ String.singleton c ++ "' in type string " ++ marked text)
        | none => complain p name ("invalid type string " ++ marked text)
        return 1
    let unit := (kinds.map fun (k, _) => k.size).foldl max 1
    let base ← match g.valueOf? 'A' with
      | some "n" => pure none
      | some "d" => pure (some 10)
      | some "x" => pure (some 16)
      | some "o" | none => pure (some 8)
      | some text =>
        complain p name ("invalid output address radix '" ++ ((text.take 1).copy) ++
          "'; it must be one character from [doxn]")
        return 1
    let count? (letter : Char) : Option Nat := (g.valueOf? letter).bind fun text =>
      if text.startsWith "0x" then
        some ((text.toList.drop 2).foldl (fun n c => 16 * n + (Text.hexValue? c).getD 0) 0)
      else scaled? text
    let width := match g.valueOf? 'ω', g.valueOf? 'w' with
      | some "", _ => 32
      | some n, _ | none, some n => (number? n).getD 16
      | none, none => 16
    let width := if width % unit = 0 && width ≠ 0 then width else unit
    let skip := (count? 'j').getD 0
    let limit := (count? 'N').map (· + skip)
    let (bytes, fine) ← readAll p name (orInput g.operands) limit .empty true
    if bytes.size < skip then
      complain p name "cannot skip past end of combined input"
      return 1
    let d : Dump := ⟨kinds, width, base, g.has 'v', g.valueOf? 'ε' == some "big"⟩
    d.write p (bytes.size + 1) skip (bytes.toList.drop skip) none false
    let mut isOpen := false
    for file in orInput g.operands do
      if file = "-" || (← openSource p file).toOption.isSome then isOpen := true
    if base.isSome && isOpen then p.say (d.position bytes.size ++ "\n")
    return statusOf fine

/-- The letters that spell six bits each. -/
def letters64 : List Char :=
  "ABCDEFGHIJKLMNOPQRSTUVWXYZabcdefghijklmnopqrstuvwxyz0123456789+/".toList

/-- The letters that spell five bits each. -/
def letters32 : List Char := "ABCDEFGHIJKLMNOPQRSTUVWXYZ234567".toList

/-- Bytes spelled by letters of some bits each, in groups that are filled up with signs. -/
def spelledBytes (alphabet : Array Char) (bits groupBytes groupLetters : Nat) :
    Nat → List UInt8 → List Char
  | 0, _ | _, [] => []
  | fuel + 1, bytes =>
    let part := bytes.take groupBytes
    let n := part.foldl (fun n b => 256 * n + b.toNat) 0 * Nat.pow 256 (groupBytes - part.length)
    let used := (8 * part.length + bits - 1) / bits
    let all := (List.range groupLetters).map fun k =>
      if k < used then alphabet[n / Nat.pow 2 (bits * (groupLetters - 1 - k)) % Nat.pow 2 bits]!
      else '='
    all ++ spelledBytes alphabet bits groupBytes groupLetters fuel (bytes.drop groupBytes)

/-- The bytes that letters spell, and whether they are all right. -/
def bytesSpelled (alphabet : List Char) (bits groupLetters : Nat) :
    Nat → List Char → List UInt8 × Bool
  | 0, _ => ([], false)
  | _, [] => ([], true)
  | fuel + 1, cs =>
    let part := cs.take groupLetters
    let letters := part.takeWhile (· ≠ '=')
    let values := letters.takeWhile (alphabet.contains ·)
    let n := values.foldl (fun n c => Nat.pow 2 bits * n + alphabet.idxOf c) 0
    let whole := bits * values.length / 8
    let spare := bits * values.length - 8 * whole
    let m := n / Nat.pow 2 spare
    let bytes := (List.range whole).map fun k => (m / Nat.pow 256 (whole - 1 - k) % 256).toUInt8
    let isFull := part.length = groupLetters && values.length = letters.length &&
      (part.drop letters.length).all (· == '=') && spare < bits && 0 < values.length
    if !isFull then (bytes, false)
    else
      let (rest, fine) := bytesSpelled alphabet bits groupLetters fuel (cs.drop groupLetters)
      (bytes ++ rest, fine)

/-- Text in lines of a width. -/
def wrapped (width : Nat) : Nat → List Char → List Char
  | 0, _ | _, [] => []
  | fuel + 1, cs =>
    if width = 0 then cs else cs.take width ++ '\n' :: wrapped width fuel (cs.drop width)

/-- Spell bytes by letters, or read them back. -/
def spellBytes (alphabet : List Char) (bits groupBytes groupLetters : Nat) : Program :=
  withOptions ⟨['d', 'i'], ['w'],
      [("--decode", 'd'), ("--ignore-garbage", 'i'), ("--wrap", 'w')], false⟩ 1 fun p name g => do
    match g.operands with
    | _ :: extra :: _ => misuse p name ("extra operand " ++ shown extra) 1
    | operands =>
      let file := operands.headD "-"
      if let some text := g.valueOf? 'w' then
        if (number? text).isNone then
          complain p name ("invalid wrap size: " ++ marked text)
          return 1
      match ← content p file with
      | .error e =>
        complain p name ((if e = .isADirectory then "read error" else shownIfNeeded file) ++ ": " ++ e.text)
        return 1
      | .ok text =>
        if g.has 'd' then
          let cs := text.toList.filter (· ≠ '\n')
          let cs := if g.has 'i' then cs.filter fun c => alphabet.contains c || c = '=' else cs
          let (bytes, fine) := bytesSpelled alphabet bits groupLetters (cs.length + 1) cs
          p.say (ofBytes ⟨bytes.toArray⟩)
          if !fine then complain p name "invalid input"
          return statusOf fine
        else
          let bytes := (toBytes text).toList
          let cs := spelledBytes alphabet.toArray bits groupBytes groupLetters (bytes.length + 1) bytes
          let width := ((g.valueOf? 'w').bind number?).getD 76
          p.say (String.ofList (wrapped width (cs.length + 1) cs))
          return 0

end CompileTree.Shell.Utility
