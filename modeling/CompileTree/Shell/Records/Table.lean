import CompileTree.Shell.Records.Value
import Std.Data.HashMap

/-! # Arrays of values

An array has values for texts and for whole numbers. A loop comes to its elements in the
order of lists that keys are spread over by their value: in every list the key that was
used last stands first. Keys that are numbers have lists of their own until texts are
asked for.
-/

namespace CompileTree.Shell.Records

/-- What an element of an array is known by. -/
inductive Key where
  | text (s : String)
  | number (n : Int)
  deriving DecidableEq, Repr

/-- A key as a text. -/
def Key.toText : Key → String
  | .text s => s
  | .number n => toString n

/-- An array of values. -/
structure Table where
  values : Std.HashMap String Value
  /-- Lists of the keys that were used as texts. -/
  texts : Array (List String)
  /-- Lists of the keys that were used as numbers. -/
  numbers : Array (List Int)
  /-- Whether all keys are in the lists of texts. -/
  hasTexts : Bool
  /-- Whether no list was needed so far, as the keys are the numbers from one on. -/
  isSeries : Bool

namespace Table

/-- How many lists an array has at first. -/
def startCount : Nat := 64

/-- How many keys a list has on average at most. -/
def listLimit : Nat := 12

/-- An array without elements. -/
def empty : Table :=
  ⟨∅, Array.replicate startCount [], Array.replicate startCount [], false, false⟩

/-- The array of some values, numbered from one. -/
def ofList (vs : List Value) : Table :=
  let numbered := vs.zipIdx 1
  { empty with
    values := numbered.foldl (fun m (v, n) => m.insert (toString n) v) ∅
    isSeries := !vs.isEmpty }

/-- The number of elements. -/
def size (t : Table) : Nat := t.values.size

/-- A number that spreads texts evenly: every byte is taken in and spread by a product. -/
def spreadOf (s : String) : Nat :=
  (s.toList.foldl (fun (h : UInt32) c => (h ^^^ c.toNat.toUInt32) * 16777619) 2166136261).toNat

/-- The place of a text among so many lists. -/
def textPlace (count : Nat) (s : String) : Nat := spreadOf s % count

/-- The place of a number among so many lists. -/
def numberPlace (count : Nat) (n : Int) : Nat := (n % (count : Int)).toNat

/-- Put a key in front of a list, in which it does not stand anywhere else then. -/
def inFront {α : Type} [BEq α] (lists : Array (List α)) (place : Nat) (a : α) : Array (List α) :=
  lists.modify place fun l => a :: l.filter (· != a)

/-- Twice as many lists, in which keys keep their order. -/
def doubled {α : Type} (lists : Array (List α)) (place : Nat → α → Nat) : Array (List α) :=
  let count := 2 * lists.size
  let all := lists.toList.flatten.reverse
  all.foldl (fun new a => new.modify (place count a) (a :: ·)) (Array.replicate count [])

/-- Have as many lists as the elements need. -/
def widened (t : Table) (elements : Nat) : Table :=
  if t.texts.size * listLimit < elements then
    { t with texts := doubled t.texts textPlace, numbers := doubled t.numbers numberPlace }
  else t

/-- Spread the keys of a series over lists. -/
def unserial (t : Table) : Table :=
  if !t.isSeries then t
  else
    let n := t.size
    let counts := (List.range (n.log2 + 1)).map fun k => startCount * Nat.pow 2 k
    let count := (counts.find? fun c => n ≤ c * listLimit).getD startCount
    let start : Array (List Int) := Array.replicate count []
    { t with
      texts := Array.replicate count []
      numbers := (List.range n).foldl (fun lists (i : Nat) =>
        lists.modify (numberPlace count (i + 1)) ((i + 1 : Int) :: ·)) start
      isSeries := false }

/-- Have all keys in the lists of texts. -/
def withTexts (t : Table) : Table :=
  if t.hasTexts then t
  else
    let t := t.unserial
    let add (lists : Array (List String)) (n : Int) : Array (List String) :=
      let s := toString n
      let place := textPlace lists.size s
      if (lists.getD place []).contains s then lists else lists.modify place (s :: ·)
    { t with texts := t.numbers.toList.flatten.foldl add t.texts, hasTexts := true }

/-- Use a key as a text. Whether there is an element is not changed. -/
def useText (t : Table) (s : String) : Table :=
  let t := t.withTexts
  let isNew := !t.values.contains s
  let t := if isNew then t.widened (t.size + 1) else t
  { t with texts := inFront t.texts (textPlace t.texts.size s) s }

/-- Use a key as a number. Whether there is an element is not changed. -/
def useNumber (t : Table) (n : Int) : Table :=
  if t.isSeries && 1 ≤ n && n ≤ t.size then t
  else
    let t := t.unserial
    let isKnown := (t.numbers.getD (numberPlace t.numbers.size n) []).contains n
    let t := if isKnown then t
      else if t.hasTexts then t.useText (toString n)
      else t.widened (t.size + 1)
    { t with numbers := inFront t.numbers (numberPlace t.numbers.size n) n }

/-- Use a key. Whether there is an element is not changed. -/
def use (t : Table) : Key → Table
  | .text s => t.useText s
  | .number n => t.useNumber n

/-- Whether there is an element. -/
def has (t : Table) (k : Key) : Bool := t.values.contains k.toText

/-- Look whether there is an element, with what that changes. -/
def asked (t : Table) (k : Key) : Table :=
  if t.has k then t.use k
  else
    match k with
    | .text _ => if t.size = 0 then t else t.withTexts
    | .number _ => t

/-- The value of an element, which is there from then on. -/
def get (t : Table) (k : Key) : Value × Table :=
  let used := t.use k
  match t.values.get? k.toText with
  | some v => (v, used)
  | none => (.unset, { used with values := used.values.insert k.toText .unset })

/-- Give an element a value. -/
def set (t : Table) (k : Key) (v : Value) : Table :=
  let used := t.use k
  { used with values := used.values.insert k.toText v }

/-- Take an element away. -/
def delete (t : Table) (k : Key) : Table :=
  if !t.has k then t
  else
    let t := match k with
      | .text _ => t.withTexts
      | .number _ => t.unserial
    let s := k.toText
    let values := t.values.erase s
    if values.isEmpty then empty
    else { t with
      values
      texts := t.texts.modify (textPlace t.texts.size s) (·.filter (· != s))
      numbers := match s.toInt?.filter (toString · == s) with
        | some n => t.numbers.modify (numberPlace t.numbers.size n) (·.filter (· != n))
        | none => t.numbers }

/-- The keys in the order in which a loop comes to them. -/
def keys (t : Table) : List String × Table :=
  let t := t.withTexts
  (t.texts.toList.flatten, t)

end Table

end CompileTree.Shell.Records
