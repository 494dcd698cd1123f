/-! # SipHash

The keyed 64-bit hash SipHash-1-3: one mixing round for every eight bytes and
three at the end.
-/

namespace CompileTree.Log.SipHash

/-- The four words that a hash is computed in. -/
structure State where
  v0 : UInt64
  v1 : UInt64
  v2 : UInt64
  v3 : UInt64
  deriving DecidableEq, Repr

/-- Rotate a word to the left. -/
def rotate (x : UInt64) (n : UInt64) : UInt64 := (x <<< n) ||| (x >>> (64 - n))

/-- One mixing round. -/
def State.round (s : State) : State :=
  let a := s.v0 + s.v1
  let b := rotate s.v1 13 ^^^ a
  let c := s.v2 + s.v3
  let d := rotate s.v3 16 ^^^ c
  let a' := rotate a 32
  let e := a' + d
  let f := c + b
  { v0 := e
    v1 := rotate b 17 ^^^ f
    v2 := rotate f 32
    v3 := rotate d 21 ^^^ e }

/-- The state before any input. -/
def State.start (k0 k1 : UInt64) : State :=
  { v0 := k0 ^^^ 0x736f6d6570736575
    v1 := k1 ^^^ 0x646f72616e646f6d
    v2 := k0 ^^^ 0x6c7967656e657261
    v3 := k1 ^^^ 0x7465646279746573 }

/-- Take in one word. -/
def State.absorb (s : State) (m : UInt64) : State :=
  let s := { s with v3 := s.v3 ^^^ m }.round
  { s with v0 := s.v0 ^^^ m }

/-- The number that bytes spell, the least significant one first. -/
def littleEndian (bs : List UInt8) : UInt64 :=
  bs.foldr (fun b n => n <<< 8 ||| b.toUInt64) 0

/-- Take in bytes, eight at a time; the last word has the low byte of the total
    length at its top. -/
def absorbAll (length : Nat) (s : State) : List UInt8 → State
  | b0 :: b1 :: b2 :: b3 :: b4 :: b5 :: b6 :: b7 :: bs =>
    absorbAll length (s.absorb (littleEndian [b0, b1, b2, b3, b4, b5, b6, b7])) bs
  | bs => s.absorb (littleEndian bs ||| UInt64.ofNat length <<< 56)

/-- The hash of a byte string under a key of two words. -/
def hash (k0 k1 : UInt64) (bytes : List UInt8) : UInt64 :=
  let s := absorbAll bytes.length (State.start k0 k1) bytes
  let s := { s with v2 := s.v2 ^^^ 0xff }.round.round.round
  s.v0 ^^^ s.v1 ^^^ s.v2 ^^^ s.v3

/-- The lowest `count` bytes of a number, the least significant one first. -/
def bytesOf : Nat → Nat → List UInt8
  | 0, _ => []
  | count + 1, n => UInt8.ofNat n :: bytesOf count (n / 256)

end CompileTree.Log.SipHash
