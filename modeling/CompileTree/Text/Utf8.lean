/-! # Reading UTF-8 leniently

Bytes are decoded one at a time. A byte that cannot continue the character
begun before it ends that character with one replacement character and is then
read as a first byte itself, so every maximal ill-formed prefix of a character
gives exactly one replacement character.
-/

namespace CompileTree.Text.Utf8

/-- Stands for bytes that are no character. -/
def replacement : Char := Char.ofNat 0xFFFD

/-- What the bytes read so far still ask for. -/
inductive Pending where
  /-- Nothing: the next byte begins a character. -/
  | between
  /-- `left` more bytes, the next one from `low` to `high`; `value` holds the
      bits read so far. -/
  | owed (left : Nat) (low high : Nat) (value : Nat)
  deriving Repr, DecidableEq

/-- Read a byte where a character begins. -/
def first (b : Nat) : List Char × Pending :=
  if b ≤ 0x7F then ([Char.ofNat b], .between)
  else if 0xC2 ≤ b ∧ b ≤ 0xDF then ([], .owed 1 0x80 0xBF (b - 0xC0))
  else if b = 0xE0 then ([], .owed 2 0xA0 0xBF 0)
  else if b = 0xED then ([], .owed 2 0x80 0x9F 0xD)
  else if 0xE1 ≤ b ∧ b ≤ 0xEF then ([], .owed 2 0x80 0xBF (b - 0xE0))
  else if b = 0xF0 then ([], .owed 3 0x90 0xBF 0)
  else if 0xF1 ≤ b ∧ b ≤ 0xF3 then ([], .owed 3 0x80 0xBF (b - 0xF0))
  else if b = 0xF4 then ([], .owed 3 0x80 0x8F 4)
  else ([replacement], .between)

/-- Read one byte: the characters it completes and what is asked for next. -/
def step : Pending → Nat → List Char × Pending
  | .between, b => first b
  | .owed left low high value, b =>
    if low ≤ b ∧ b ≤ high then
      let value := value * 64 + (b - 0x80)
      match left with
      | 0 | 1 => ([Char.ofNat value], .between)
      | n + 2 => ([], .owed (n + 1) 0x80 0xBF value)
    else
      let (cs, next) := first b
      (replacement :: cs, next)

/-- Decode bytes from a given state; an unfinished character at the end is
    replaced. -/
def decodeFrom : Pending → List UInt8 → List Char
  | .between, [] => []
  | .owed .., [] => [replacement]
  | state, b :: bs =>
    let (cs, next) := step state b.toNat
    cs ++ decodeFrom next bs

/-- The text of `bytes`, with ill-formed stretches replaced. -/
def decodeLossy (bytes : ByteArray) : String :=
  match String.fromUTF8? bytes with
  | some text => text
  | none => String.ofList (decodeFrom .between bytes.toList)

end CompileTree.Text.Utf8

/-! ## Byte text

Programs see text as bytes. Byte text is text in which every character stands for
one byte, so that cutting, comparing and counting characters is cutting,
comparing and counting bytes. ASCII text is its own byte text.
-/

namespace CompileTree.Text

/-- The byte text of bytes. -/
def ofBytes (bytes : ByteArray) : String :=
  String.ofList (bytes.toList.map fun b => Char.ofNat b.toNat)

/-- The bytes of byte text. -/
def toBytes (text : String) : ByteArray :=
  ⟨(text.toList.map fun c => c.toNat.toUInt8).toArray⟩

/-- The byte text of a text. -/
def spread (text : String) : String := ofBytes text.toUTF8

/-- The text that byte text spells. -/
def gather (text : String) : String := Utf8.decodeLossy (toBytes text)

example : spread "aé" = "a\xc3\xa9" ∧ gather "a\xc3\xa9" = "aé" := by decide +kernel

end CompileTree.Text
