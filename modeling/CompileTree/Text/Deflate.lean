import Std.Data.HashMap

/-! # Compressed bytes

Bytes are compressed as literal bytes and copies of what stands before, in blocks with
codes of their own. What is written here has one block, with the codes that are known
beforehand or without any; every kind of block is read. A sum tells whether bytes are
what they were.
-/

namespace CompileTree.Text.Deflate

/-- The sums of single bytes. -/
def byteSums : Array UInt32 :=
  (Array.range 256).map fun n =>
    (List.range 8).foldl (fun (c : UInt32) _ =>
      if c &&& 1 = 1 then (c >>> 1) ^^^ 0xEDB88320 else c >>> 1) n.toUInt32

/-- The sum of bytes. -/
def sum (bytes : ByteArray) : UInt32 :=
  let table := byteSums
  (bytes.foldl (fun (c : UInt32) b =>
    (c >>> 8) ^^^ (table[((c ^^^ b.toUInt32) &&& 0xff).toNat]?.getD 0)) 0xffffffff) ^^^ 0xffffffff

/-- The shortest copies of the codes for lengths, with how many bits are added. -/
def lengthCodes : Array (Nat × Nat) := #[
  (3, 0), (4, 0), (5, 0), (6, 0), (7, 0), (8, 0), (9, 0), (10, 0), (11, 1), (13, 1), (15, 1),
  (17, 1), (19, 2), (23, 2), (27, 2), (31, 2), (35, 3), (43, 3), (51, 3), (59, 3), (67, 4),
  (83, 4), (99, 4), (115, 4), (131, 5), (163, 5), (195, 5), (227, 5), (258, 0)]

/-- The shortest ways of the codes for distances, with how many bits are added. -/
def distanceCodes : Array (Nat × Nat) := #[
  (1, 0), (2, 0), (3, 0), (4, 0), (5, 1), (7, 1), (9, 2), (13, 2), (17, 3), (25, 3), (33, 4),
  (49, 4), (65, 5), (97, 5), (129, 6), (193, 6), (257, 7), (385, 7), (513, 8), (769, 8),
  (1025, 9), (1537, 9), (2049, 10), (3073, 10), (4097, 11), (6145, 11), (8193, 12), (12289, 12),
  (16385, 13), (24577, 13)]

/-! ## Reading -/

/-- Bits that are read, from the lowest bit of each byte on. -/
structure Bits where
  bytes : ByteArray
  place : Nat

/-- Steps of reading; nothing is returned where bytes are not what they should be. -/
abbrev Reader := StateT Bits Option

/-- The next bit. -/
def bit : Reader Nat := fun b =>
  (b.bytes[b.place / 8]?).map fun byte =>
    ((byte.toNat / Nat.pow 2 (b.place % 8)) % 2, { b with place := b.place + 1 })

/-- A number of bits as a number, the lowest one first. -/
def bits : Nat → Reader Nat
  | 0 => return 0
  | n + 1 => do
    let low ← bit
    return low + 2 * (← bits n)

/-- A code by the lengths of its words: how many words have each length, and the symbols in
    the order of their words. -/
structure Code where
  counts : Array Nat
  symbols : Array Nat

/-- The code whose symbols have words of given lengths. -/
def Code.ofLengths (lengths : Array Nat) : Code where
  counts := (Array.range 16).map fun n => if n = 0 then 0 else lengths.foldl (fun k l => if l = n then k + 1 else k) 0
  symbols := ((List.range 15).flatMap fun n =>
    (List.range lengths.size).filter fun i => lengths[i]? == some (n + 1)).toArray

/-- The next symbol; `length` more lengths of words are tried. -/
def Code.symbolFrom (c : Code) (code first index : Nat) : Nat → Reader Nat
  | 0 => failure
  | left + 1 => do
    let code := code + (← bit)
    let count := c.counts[15 - left]?.getD 0
    if code - first < count then c.symbols[index + (code - first)]?
    else symbolFrom c (2 * code) (2 * (first + count)) (index + count) left

/-- The next symbol. -/
def Code.symbol (c : Code) : Reader Nat := c.symbolFrom 0 0 0 15

/-- Bytes with a copy of earlier ones behind them. -/
def repeated (distance : Nat) : Nat → ByteArray → ByteArray
  | 0, out => out
  | n + 1, out => repeated distance n (out.push (out[out.size - distance]?.getD 0))

/-- The bytes of a block behind those before; `fuel` bounds the symbols. -/
def blockBytes (literals distances : Code) : Nat → ByteArray → Reader ByteArray
  | 0, _ => failure
  | fuel + 1, out => do
    let n ← literals.symbol
    if n < 256 then blockBytes literals distances fuel (out.push n.toUInt8)
    else if n = 256 then return out
    else
      let (least, more) ← lengthCodes[n - 257]?
      let length := least + (← bits more)
      let (near, more) ← distanceCodes[← distances.symbol]?
      let distance := near + (← bits more)
      if out.size < distance then failure
      blockBytes literals distances fuel (repeated distance length out)

/-- The codes that are known beforehand. -/
def knownLengths : Array Nat :=
  (Array.range 288).map fun n => if n < 144 then 8 else if n < 256 then 9 else if n < 280 then 7 else 8

/-- The order in which lengths of words for lengths stand. -/
def lengthOrder : List Nat := [16, 17, 18, 0, 8, 7, 9, 6, 10, 5, 11, 4, 12, 3, 13, 2, 14, 1, 15]

/-- Lengths of words behind those before, up to a number of them. -/
def lengthsFrom (c : Code) (count : Nat) : Nat → Array Nat → Reader (Array Nat)
  | 0, _ => failure
  | fuel + 1, out => do
    if count ≤ out.size then return out
    let n ← c.symbol
    let again (value times : Nat) : Reader (Array Nat) :=
      lengthsFrom c count fuel (out ++ Array.replicate times value)
    if n < 16 then lengthsFrom c count fuel (out.push n)
    else if n = 16 then again (← out.back?) (3 + (← bits 2))
    else if n = 17 then again 0 (3 + (← bits 3))
    else again 0 (11 + (← bits 7))

/-- The codes that stand at the start of a block. -/
def ownCodes : Reader (Code × Code) := do
  let literals := 257 + (← bits 5)
  let distances := 1 + (← bits 5)
  let count := 4 + (← bits 4)
  let lengths ← (lengthOrder.take count).foldlM (fun (v : Array Nat) i => do
    return v.set! i (← bits 3)) (Array.replicate 19 0)
  let all ← lengthsFrom (.ofLengths lengths) (literals + distances) (literals + distances + 1) #[]
  return (.ofLengths (all.extract 0 literals), .ofLengths (all.extract literals (literals + distances)))

/-- The bytes of blocks behind those before; `fuel` bounds the blocks. -/
def blocks : Nat → ByteArray → Reader ByteArray
  | 0, _ => failure
  | fuel + 1, out => do
    let isLast ← bit
    let kind ← bits 2
    let b ← get
    let limit := 8 * b.bytes.size + 1
    let out ← match kind with
      | 0 => do
        let start := (b.place + 7) / 8
        let low ← b.bytes[start]?
        let high ← b.bytes[start + 1]?
        let stop := start + 4 + low.toNat + 256 * high.toNat
        if b.bytes.size < stop then failure
        set { b with place := 8 * stop }
        pure (out ++ b.bytes.extract (start + 4) stop)
      | 1 => blockBytes (.ofLengths knownLengths) (.ofLengths (Array.replicate 30 5)) limit out
      | 2 => do
        let (literals, distances) ← ownCodes
        blockBytes literals distances limit out
      | _ => failure
    if isLast = 1 then return out else blocks fuel out

/-- The bytes that were compressed, and how many bytes they were compressed to. -/
def inflate? (bytes : ByteArray) : Option (ByteArray × Nat) :=
  ((blocks (8 * bytes.size + 1) .empty).run ⟨bytes, 0⟩).map fun (out, b) => (out, (b.place + 7) / 8)

/-! ## Writing -/

/-- A literal byte, or a copy of what stands at a distance before. -/
inductive Item where
  | byte (b : UInt8)
  | copy (length distance : Nat)
  deriving DecidableEq, Repr

/-- How many bytes are the same from two places on, up to the longest copy. -/
def sameBytes (bytes : ByteArray) (i j : Nat) : Nat → Nat
  | 0 => 0
  | n + 1 => if j < bytes.size && bytes[i]? == bytes[j]? then sameBytes bytes (i + 1) (j + 1) n + 1 else 0

/-- The three bytes at a place as a number. -/
def startAt (bytes : ByteArray) (i : Nat) : Nat :=
  let at_ (k : Nat) : Nat := (bytes[i + k]?.getD 0).toNat
  (at_ 0 * 256 + at_ 1) * 256 + at_ 2

/-- The longest copy of what stands at a place, of the nearest one of several, among places
    that are near enough; the first place of all is none of them. -/
def longest (bytes : ByteArray) (i : Nat) (places : List Nat) : Option (Nat × Nat) :=
  ((places.take 128).foldl (fun (best : Option (Nat × Nat)) k =>
    let n := sameBytes bytes k i 258
    if 0 < k && i - k ≤ 32506 && best.elim 2 (·.1) < n then some (n, i - k) else best) none).filter fun (n, d) =>
      !(n = 3 && 4096 < d)

/-- The items for bytes from a place on. `known` holds the places of what was seen by its first
    three bytes, and `held` a copy that starts one byte before, which stands back if there is
    a longer one here. -/
def itemsFrom (bytes : ByteArray) :
    Nat → Nat → Std.HashMap Nat (List Nat) → Option (Nat × Nat) → Bool → List Item
  | 0, _, _, _, _ => []
  | fuel + 1, i, known, held, waits =>
    let before : List Item := if waits then (bytes[i - 1]?).toList.map .byte else []
    if bytes.size ≤ i then before
    else
      let key := startAt bytes i
      let places := known.getD key []
      let here := if i + 3 ≤ bytes.size && held.elim 0 (·.1) < 16 then longest bytes i places else none
      let learn (known : Std.HashMap Nat (List Nat)) (k : Nat) : Std.HashMap Nat (List Nat) :=
        if k + 3 ≤ bytes.size then
          let key := startAt bytes k
          known.insert key (k :: known.getD key [])
        else known
      match held with
      | some (n, d) =>
        if here.elim 0 (·.1) ≤ n then
          let stop := i - 1 + n
          let known := (List.range' i (stop - i)).foldl learn known
          .copy n d :: itemsFrom bytes fuel stop known none false
        else before ++ itemsFrom bytes fuel (i + 1) (learn known i) here true
      | none => before ++ itemsFrom bytes fuel (i + 1) (learn known i) here true

/-- A number as bits, the lowest one first. -/
def lowBits (n : Nat) : Nat → List Bool
  | 0 => []
  | count + 1 => (n % 2 == 1) :: lowBits (n / 2) count

/-- The word of a symbol in the code that is known beforehand. -/
def knownWord (n : Nat) : List Bool :=
  if n < 144 then (lowBits (48 + n) 8).reverse
  else if n < 256 then (lowBits (400 + (n - 144)) 9).reverse
  else if n < 280 then (lowBits (n - 256) 7).reverse
  else (lowBits (192 + (n - 280)) 8).reverse

/-- The number of the code that holds a value, with the bits that are added. -/
def codeOf (codes : Array (Nat × Nat)) (value : Nat) : Nat × List Bool :=
  let i := (codes.foldl (fun k c => if c.1 ≤ value then k + 1 else k) 0) - 1
  let (least, more) := codes[i]?.getD (0, 0)
  (i, lowBits (value - least) more)

/-- The bits of an item. -/
def Item.bits : Item → List Bool
  | .byte b => knownWord b.toNat
  | .copy length distance =>
    let (i, more) := codeOf lengthCodes length
    let (j, others) := codeOf distanceCodes distance
    knownWord (257 + i) ++ more ++ (lowBits j 5).reverse ++ others

/-- Bytes of bits, the last one filled up. -/
def ofBits (bits : List Bool) : ByteArray :=
  let put (st : ByteArray × Nat × Nat) (b : Bool) : ByteArray × Nat × Nat :=
    let (out, byte, weight) := st
    let byte := if b then byte + weight else byte
    if weight = 128 then (out.push byte.toUInt8, 0, 1) else (out, byte, 2 * weight)
  let (out, byte, weight) := bits.foldl put (.empty, 0, 1)
  if weight = 1 then out else out.push byte.toUInt8

/-- Bytes as blocks that are not compressed; `fuel` bounds their number. -/
def plainBlocks : Nat → ByteArray → ByteArray
  | 0, _ => .empty
  | fuel + 1, bytes =>
    let n := min bytes.size 65535
    let isLast := n = bytes.size
    let size (n : Nat) : ByteArray := ⟨#[(n % 256).toUInt8, (n / 256).toUInt8]⟩
    let block := ⟨#[if isLast then 1 else 0]⟩ ++ size n ++ size (65535 - n) ++ bytes.extract 0 n
    if isLast then block else block ++ plainBlocks fuel (bytes.extract n bytes.size)

/-- Bytes compressed. -/
def deflate (bytes : ByteArray) : ByteArray :=
  let items := itemsFrom bytes (2 * bytes.size + 2) 0 ∅ none false
  let out := ofBits ([true, true, false] ++ items.flatMap (·.bits) ++ knownWord 256)
  if bytes.size + 4 ≤ out.size ∧ !bytes.isEmpty then plainBlocks (bytes.size + 1) bytes else out

example : sum "a".toUTF8 = 0xE8B7BE43 := by decide +kernel

end CompileTree.Text.Deflate
