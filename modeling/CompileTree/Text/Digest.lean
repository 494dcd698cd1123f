/-! # Digests

Sums of bytes by which files are told apart. The bytes are filled up to whole blocks,
and every block changes a state of words, from which the digest is read off.
-/

namespace CompileTree.Text.Digest

/-- Bytes filled up to blocks of a size: a bit, zeros, and the number of bits in as many
    bytes as given, in the order of the words. -/
def padded (bytes : ByteArray) (block lengthBytes : Nat) (bigEnd : Bool) : ByteArray :=
  let zeros := (2 * block - (bytes.size + 1 + lengthBytes) % block) % block
  let bits := 8 * bytes.size
  let digits := (List.range lengthBytes).map fun k => (bits / Nat.pow 256 k % 256).toUInt8
  let tail := (if bigEnd then digits.reverse else digits).toArray
  bytes ++ ⟨#[0x80] ++ Array.replicate zeros 0 ++ tail⟩

/-- The word of 32 bits at a position, its last byte counting most, or its first. -/
def word32 (bytes : ByteArray) (place : Nat) (bigEnd : Bool) : UInt32 :=
  let b (k : Nat) : UInt32 := (bytes.get! (place + if bigEnd then 3 - k else k)).toUInt32
  b 0 ||| (b 1 <<< 8) ||| (b 2 <<< 16) ||| (b 3 <<< 24)

/-- The word of 64 bits at a position, its first byte counting most. -/
def word64 (bytes : ByteArray) (place : Nat) : UInt64 :=
  ((word32 bytes place true).toUInt64 <<< 32) ||| (word32 bytes (place + 4) true).toUInt64

/-- The bytes of a word of 32 bits. -/
def bytes32 (w : UInt32) (bigEnd : Bool) : List UInt8 :=
  let all := [w.toUInt8, (w >>> 8).toUInt8, (w >>> 16).toUInt8, (w >>> 24).toUInt8]
  if bigEnd then all.reverse else all

/-- The bytes of a word of 64 bits, the first one counting most. -/
def bytes64 (w : UInt64) : List UInt8 :=
  bytes32 (w >>> 32).toUInt32 true ++ bytes32 w.toUInt32 true

/-- Turn the bits of a word to the left. -/
def left32 (w : UInt32) (n : UInt32) : UInt32 := (w <<< n) ||| (w >>> (32 - n))

/-- Turn the bits of a word to the right. -/
def right32 (w : UInt32) (n : UInt32) : UInt32 := (w >>> n) ||| (w <<< (32 - n))

/-- Turn the bits of a word to the right. -/
def right64 (w : UInt64) (n : UInt64) : UInt64 := (w >>> n) ||| (w <<< (64 - n))

/-- Change a state by every block of bytes. -/
def overBlocks {σ : Type} (bytes : ByteArray) (block : Nat) (f : σ → Nat → σ) (start : σ) : σ :=
  (List.range (bytes.size / block)).foldl (fun st k => f st (k * block)) start

/-- How far the rounds of the first digest turn the bits. -/
def md5Turns : Array UInt32 := #[7, 12, 17, 22, 5, 9, 14, 20, 4, 11, 16, 23, 6, 10, 15, 21]

/-- What the rounds of the first digest add: the first bits behind the point of sines. -/
def md5Words : Array UInt32 := #[
  0xd76aa478, 0xe8c7b756, 0x242070db, 0xc1bdceee, 0xf57c0faf, 0x4787c62a, 0xa8304613, 0xfd469501,
  0x698098d8, 0x8b44f7af, 0xffff5bb1, 0x895cd7be, 0x6b901122, 0xfd987193, 0xa679438e, 0x49b40821,
  0xf61e2562, 0xc040b340, 0x265e5a51, 0xe9b6c7aa, 0xd62f105d, 0x02441453, 0xd8a1e681, 0xe7d3fbc8,
  0x21e1cde6, 0xc33707d6, 0xf4d50d87, 0x455a14ed, 0xa9e3e905, 0xfcefa3f8, 0x676f02d9, 0x8d2a4c8a,
  0xfffa3942, 0x8771f681, 0x6d9d6122, 0xfde5380c, 0xa4beea44, 0x4bdecfa9, 0xf6bb4b60, 0xbebfbc70,
  0x289b7ec6, 0xeaa127fa, 0xd4ef3085, 0x04881d05, 0xd9d4d039, 0xe6db99e5, 0x1fa27cf8, 0xc4ac5665,
  0xf4292244, 0x432aff97, 0xab9423a7, 0xfc93a039, 0x655b59c3, 0x8f0ccc92, 0xffeff47d, 0x85845dd1,
  0x6fa87e4f, 0xfe2ce6e0, 0xa3014314, 0x4e0811a1, 0xf7537e82, 0xbd3af235, 0x2ad7d2bb, 0xeb86d391]

/-- A state of four words of 32 bits. -/
structure Four where
  a : UInt32
  b : UInt32
  c : UInt32
  d : UInt32

/-- The digest of 128 bits. -/
def md5 (bytes : ByteArray) : List UInt8 :=
  let all := padded bytes 64 8 false
  let round (place : Nat) (s : Four) (i : Nat) : Four :=
    let (f, k) : UInt32 × Nat :=
      if i < 16 then ((s.b &&& s.c) ||| (~~~s.b &&& s.d), i)
      else if i < 32 then ((s.d &&& s.b) ||| (~~~s.d &&& s.c), (5 * i + 1) % 16)
      else if i < 48 then (s.b ^^^ s.c ^^^ s.d, (3 * i + 5) % 16)
      else (s.c ^^^ (s.b ||| ~~~s.d), 7 * i % 16)
    let sum := s.a + f + md5Words[i]! + word32 all (place + 4 * k) false
    ⟨s.d, s.b + left32 sum md5Turns[i / 16 * 4 + i % 4]!, s.b, s.c⟩
  let block (s : Four) (place : Nat) : Four :=
    let t := (List.range 64).foldl (round place) s
    ⟨s.a + t.a, s.b + t.b, s.c + t.c, s.d + t.d⟩
  let s := overBlocks all 64 block ⟨0x67452301, 0xefcdab89, 0x98badcfe, 0x10325476⟩
  [s.a, s.b, s.c, s.d].flatMap (bytes32 · false)

/-- The words of a block of 160 bits' digest, drawn out to eighty. -/
def sha1Schedule (bytes : ByteArray) (place : Nat) : Array UInt32 :=
  let first := ((List.range 16).map fun k => word32 bytes (place + 4 * k) true).toArray
  (List.range 64).foldl (fun w i =>
    let t := i + 16
    w.push (left32 (w[t - 3]! ^^^ w[t - 8]! ^^^ w[t - 14]! ^^^ w[t - 16]!) 1)) first

/-- The digest of 160 bits. -/
def sha1 (bytes : ByteArray) : List UInt8 :=
  let all := padded bytes 64 8 true
  let round (w : Array UInt32) (s : Array UInt32) (i : Nat) : Array UInt32 :=
    let (a, b, c, d, e) := (s[0]!, s[1]!, s[2]!, s[3]!, s[4]!)
    let (f, k) : UInt32 × UInt32 :=
      if i < 20 then ((b &&& c) ||| (~~~b &&& d), 0x5a827999)
      else if i < 40 then (b ^^^ c ^^^ d, 0x6ed9eba1)
      else if i < 60 then ((b &&& c) ||| (b &&& d) ||| (c &&& d), 0x8f1bbcdc)
      else (b ^^^ c ^^^ d, 0xca62c1d6)
    #[left32 a 5 + f + e + k + w[i]!, a, left32 b 30, c, d]
  let block (s : Array UInt32) (place : Nat) : Array UInt32 :=
    let t := (List.range 80).foldl (round (sha1Schedule all place)) s
    s.zipWith (· + ·) t
  let s := overBlocks all 64 block
    #[0x67452301, 0xefcdab89, 0x98badcfe, 0x10325476, 0xc3d2e1f0]
  s.toList.flatMap (bytes32 · true)

/-- The prime numbers below a bound. -/
def primes (bound : Nat) : List Nat :=
  (List.range bound).filter fun n => 2 ≤ n && (List.range n).all fun d => d < 2 || n % d ≠ 0

/-- The first bits behind the point of the root of a number: the second root, or the third. -/
def rootBits (third : Bool) (bits n : Nat) : Nat :=
  let power := if third then 3 else 2
  let target := n * Nat.pow 2 (power * bits)
  let rec search : Nat → Nat → Nat
    | 0, r => r
    | k + 1, r =>
      let next := r + Nat.pow 2 k
      search k (if Nat.pow next power ≤ target then next else r)
  search (bits + 6) 0 % Nat.pow 2 bits

/-- What the rounds of the digests of 256 bits add. -/
def sha256Words : Array UInt32 :=
  ((primes 312).map fun n => (rootBits true 32 n).toUInt32).toArray

/-- What the rounds of the digests of 512 bits add. -/
def sha512Words : Array UInt64 :=
  ((primes 410).map fun n => (rootBits true 64 n).toUInt64).toArray

/-- A digest of words of 32 bits, from a start. -/
def wide32 (start : Array UInt32) (bytes : ByteArray) : List UInt8 :=
  let all := padded bytes 64 8 true
  let constants := sha256Words
  let schedule (place : Nat) : Array UInt32 :=
    let first := ((List.range 16).map fun k => word32 all (place + 4 * k) true).toArray
    (List.range 48).foldl (fun w i =>
      let t := i + 16
      let (x, y) := (w[t - 15]!, w[t - 2]!)
      let s0 := right32 x 7 ^^^ right32 x 18 ^^^ (x >>> 3)
      let s1 := right32 y 17 ^^^ right32 y 19 ^^^ (y >>> 10)
      w.push (w[t - 16]! + s0 + w[t - 7]! + s1)) first
  let round (w : Array UInt32) (s : Array UInt32) (i : Nat) : Array UInt32 :=
    let (a, b, c, d) := (s[0]!, s[1]!, s[2]!, s[3]!)
    let (e, f, g, h) := (s[4]!, s[5]!, s[6]!, s[7]!)
    let s1 := right32 e 6 ^^^ right32 e 11 ^^^ right32 e 25
    let t1 := h + s1 + ((e &&& f) ^^^ (~~~e &&& g)) + constants[i]! + w[i]!
    let s0 := right32 a 2 ^^^ right32 a 13 ^^^ right32 a 22
    let t2 := s0 + ((a &&& b) ^^^ (a &&& c) ^^^ (b &&& c))
    #[t1 + t2, a, b, c, d + t1, e, f, g]
  let block (s : Array UInt32) (place : Nat) : Array UInt32 :=
    s.zipWith (· + ·) ((List.range 64).foldl (round (schedule place)) s)
  (overBlocks all 64 block start).toList.flatMap (bytes32 · true)

/-- The digest of 256 bits. -/
def sha256 (bytes : ByteArray) : List UInt8 :=
  wide32 (((primes 20).map fun n => (rootBits false 32 n).toUInt32).toArray) bytes

/-- The digest of 224 bits. -/
def sha224 (bytes : ByteArray) : List UInt8 :=
  (wide32 #[0xc1059ed8, 0x367cd507, 0x3070dd17, 0xf70e5939, 0xffc00b31, 0x68581511, 0x64f98fa7,
    0xbefa4fa4] bytes).take 28

/-- A digest of words of 64 bits, from a start. -/
def wide64 (start : Array UInt64) (bytes : ByteArray) : List UInt8 :=
  let all := padded bytes 128 16 true
  let constants := sha512Words
  let schedule (place : Nat) : Array UInt64 :=
    let first := ((List.range 16).map fun k => word64 all (place + 8 * k)).toArray
    (List.range 64).foldl (fun w i =>
      let t := i + 16
      let (x, y) := (w[t - 15]!, w[t - 2]!)
      let s0 := right64 x 1 ^^^ right64 x 8 ^^^ (x >>> 7)
      let s1 := right64 y 19 ^^^ right64 y 61 ^^^ (y >>> 6)
      w.push (w[t - 16]! + s0 + w[t - 7]! + s1)) first
  let round (w : Array UInt64) (s : Array UInt64) (i : Nat) : Array UInt64 :=
    let (a, b, c, d) := (s[0]!, s[1]!, s[2]!, s[3]!)
    let (e, f, g, h) := (s[4]!, s[5]!, s[6]!, s[7]!)
    let s1 := right64 e 14 ^^^ right64 e 18 ^^^ right64 e 41
    let t1 := h + s1 + ((e &&& f) ^^^ (~~~e &&& g)) + constants[i]! + w[i]!
    let s0 := right64 a 28 ^^^ right64 a 34 ^^^ right64 a 39
    let t2 := s0 + ((a &&& b) ^^^ (a &&& c) ^^^ (b &&& c))
    #[t1 + t2, a, b, c, d + t1, e, f, g]
  let block (s : Array UInt64) (place : Nat) : Array UInt64 :=
    s.zipWith (· + ·) ((List.range 80).foldl (round (schedule place)) s)
  (overBlocks all 128 block start).toList.flatMap bytes64

/-- The digest of 512 bits. -/
def sha512 (bytes : ByteArray) : List UInt8 :=
  wide64 (((primes 20).map fun n => (rootBits false 64 n).toUInt64).toArray) bytes

/-- The digest of 384 bits: its words come from the next eight primes. -/
def sha384 (bytes : ByteArray) : List UInt8 :=
  (wide64 ((((primes 54).drop 8).map fun n => (rootBits false 64 n).toUInt64).toArray) bytes).take 48

/-- One step of a check by division, bit by bit, with the first bit of a word in front. -/
def crcByte (crc : UInt32) (b : UInt8) : UInt32 :=
  (List.range 8).foldl (fun c _ =>
    if c &&& 0x80000000 ≠ 0 then (c <<< 1) ^^^ 0x04c11db7 else c <<< 1) (crc ^^^ (b.toUInt32 <<< 24))

/-- The check of bytes and their number by division. -/
def crc (bytes : ByteArray) : UInt32 :=
  let rec lengthBytes : Nat → Nat → List UInt8
    | 0, _ => []
    | fuel + 1, n => if n = 0 then [] else (n % 256).toUInt8 :: lengthBytes fuel (n / 256)
  let body := bytes.foldl crcByte 0
  ~~~((lengthBytes 9 bytes.size).foldl crcByte body)

/-- One step of a check by division, with the last bit of a word in front. -/
def reflectedByte (crc : UInt32) (b : UInt8) : UInt32 :=
  (List.range 8).foldl (fun c _ =>
    if c &&& 1 ≠ 0 then (c >>> 1) ^^^ 0xedb88320 else c >>> 1) (crc ^^^ b.toUInt32)

/-- The check of bytes by division with the bits in turned order. -/
def reflectedCrc (bytes : ByteArray) : UInt32 := ~~~(bytes.foldl reflectedByte 0xffffffff)

/-- The sum of bytes, turned to the right before each one. -/
def turningSum (bytes : ByteArray) : Nat :=
  bytes.foldl (fun n b => ((n / 2 + n % 2 * 32768) + b.toNat) % 65536) 0

/-- The sum of bytes, folded to 16 bits. -/
def foldedSum (bytes : ByteArray) : Nat :=
  let s := bytes.foldl (fun n b => (n + b.toNat) % 4294967296) 0
  let r := s % 65536 + s / 65536
  r % 65536 + r / 65536

end CompileTree.Text.Digest
