import CompileTree.Shell.Utility.Streams

/-! # Permuted indexes

Every word of a text is shown in what stands around it, in the order of the words. A line
has the word and what follows it on its right half and what stands before it on its left
half; what has no room there goes to the free ends of the other half.
-/

namespace CompileTree.Shell.Utility.Permuted

/-- Part of a text. -/
structure Span where
  start : Nat
  stop : Nat

namespace Span

/-- How long a part is. -/
def size (s : Span) : Nat := s.stop - s.start

/-- A part without blanks at its end. -/
def trimmed (text : Array Char) (s : Span) : Span :=
  let rec back (start : Nat) : Nat → Nat
    | 0 => 0
    | i + 1 => if start ≤ i && (text[i]?).any (·.isWhitespace) then back start i else i + 1
  { s with stop := max s.start (back s.start s.stop) }

/-- A part of a text with a blank for every blank. -/
def shown (text : Array Char) (s : Span) : String :=
  String.ofList ((text.extract s.start s.stop).toList.map fun c => if c.isWhitespace then ' ' else c)

end Span

/-- The place behind blanks. -/
def skipBlanks (text : Array Char) (limit : Nat) : Nat → Nat → Nat
  | 0, i => i
  | fuel + 1, i => if i < limit && (text[i]?).any (·.isWhitespace) then skipBlanks text limit fuel (i + 1) else i

/-- The place behind letters. -/
def skipLetters (text : Array Char) (limit : Nat) : Nat → Nat → Nat
  | 0, i => i
  | fuel + 1, i => if i < limit && (text[i]?).any (·.isAlpha) then skipLetters text limit fuel (i + 1) else i

/-- The place behind a word or one other character. -/
def skipSome (text : Array Char) (limit i : Nat) : Nat :=
  if limit ≤ i then i
  else if (text[i]?).any (·.isAlpha) then skipLetters text limit (limit - i) i else i + 1

/-- The place behind the sentence that starts at a place. -/
def sentenceEnd (text : Array Char) : Nat → Nat → Nat
  | 0, i => i
  | fuel + 1, i =>
    if text.size ≤ i then text.size
    else if (text[i]?).any (· ∈ ['.', '?', '!']) then
      let rec closing : Nat → Nat → Nat
        | 0, j => j
        | fuel + 1, j =>
          if (text[j]?).any (· ∈ [']', '"', '\'', ')', '\x7d']) then closing fuel (j + 1) else j
      let j := closing text.size (i + 1)
      let isOver := text.size ≤ j || text[j]? == some '\n' || text[j]? == some '\t' ||
        (text[j]? == some ' ' && text[j + 1]? == some ' ')
      if isOver then skipBlanks text text.size text.size j else sentenceEnd text fuel (i + 1)
    else sentenceEnd text fuel (i + 1)

/-- A word with the sentence in which it stands. -/
structure Occurrence where
  word : Span
  sentence : Span

/-- The words of a sentence from a place on. -/
def wordsIn (text : Array Char) (sentence : Span) : Nat → Nat → List Occurrence
  | 0, _ => []
  | fuel + 1, i =>
    if sentence.stop ≤ i then []
    else if (text[i]?).any (·.isAlpha) then
      let stop := skipLetters text sentence.stop (sentence.stop - i) i
      ⟨⟨i, stop⟩, sentence⟩ :: wordsIn text sentence fuel stop
    else wordsIn text sentence fuel (i + 1)

/-- The words of a text from a place on. -/
def occurrences (text : Array Char) : Nat → Nat → List Occurrence
  | 0, _ => []
  | fuel + 1, i =>
    if text.size ≤ i then []
    else
      let next := sentenceEnd text (text.size + 1) i
      let sentence := Span.trimmed text ⟨i, next⟩
      wordsIn text sentence (text.size + 1) i ++ occurrences text fuel next

/-- How wide lines are, and the gap between their halves. -/
structure Measure where
  half : Nat
  gap : Nat
  /-- The longest word of the text. -/
  longest : Nat

/-- The end of what is shown from a place on within a width; `strict` tells whether the width
    itself is too much. -/
def reach (text : Array Char) (limit stop : Nat) : Nat → Nat → Nat → Nat
  | 0, _, at_ => at_
  | fuel + 1, cursor, at_ =>
    if cursor < limit && cursor ≤ stop then
      reach text limit stop fuel (skipSome text limit cursor) cursor
    else if cursor ≤ stop then cursor else at_

/-- The first place from which on a part is no wider than it may be. -/
def narrowed (text : Array Char) (width stop : Nat) : Nat → Nat → Nat
  | 0, i => i
  | fuel + 1, i => if i + width < stop then narrowed text width stop fuel (skipSome text stop i) else i

/-- The line for a word. -/
def line (text : Array Char) (m : Measure) (o : Occurrence) : String :=
  let size := text.size
  let mark (b : Bool) : String := if b then "/" else ""
  let beforeWidth := m.half - m.gap - 2
  let afterWidth := m.half - 2
  let limit := o.sentence.stop
  let stop := reach text limit (o.word.start + afterWidth) (size + 1) o.word.stop o.word.stop
  let afterCut := stop < limit
  let after := Span.trimmed text ⟨o.word.start, stop⟩
  let way := m.half + m.longest
  let leftStart := if way < o.word.start - o.sentence.start then skipSome text o.word.start (o.word.start - way)
    else o.sentence.start
  let before := Span.trimmed text ⟨leftStart, o.word.start⟩
  let start := narrowed text beforeWidth before.stop (size + 1) before.start
  let beforeCut := o.sentence.start < (Span.trimmed text ⟨o.sentence.start, start⟩).stop
  let before : Span := ⟨skipBlanks text size size start, before.stop⟩
  let tailWidth := beforeWidth - before.size - m.gap
  let tail : Option (Span × Bool) := if tailWidth = 0 then none
    else
      let start := skipBlanks text size size after.stop
      let stop := if start < limit then reach text limit (start + tailWidth - 1) (size + 1) start start else start
      if start < stop then some (Span.trimmed text ⟨start, stop⟩, stop < limit) else none
  let afterCut := afterCut && tail.isNone
  let headWidth := afterWidth - after.size - m.gap
  let head : Option (Span × Bool) := if headWidth = 0 then none
    else
      let stop := (Span.trimmed text ⟨leftStart, start⟩).stop
      let start := narrowed text headWidth stop (size + 1) leftStart
      if start < stop then some (⟨skipBlanks text stop size start, stop⟩, o.sentence.start < start) else none
  let beforeCut := beforeCut && head.isNone
  let width (s : Span) (cut : Bool) : Nat := s.size + (if cut then 1 else 0)
  let room := m.half - m.gap - width before beforeCut
  let left := match tail with
    | some (t, cut) => t.shown text ++ mark cut ++ "".pushn ' ' (room - width t cut)
    | none => "".pushn ' ' room
  let right := match head with
    | some (h, cut) =>
      "".pushn ' ' (m.half - width after afterCut - width h cut) ++ mark cut ++ h.shown text
    | none => ""
  "".pushn ' ' m.gap ++ left ++ mark beforeCut ++ before.shown text ++ "".pushn ' ' m.gap ++
    after.shown text ++ mark afterCut ++ right ++ "\n"

end Permuted

open Permuted in
/-- Write the permuted index of texts. -/
def permutedIndex : Program :=
  withOptions ⟨['A', 'f', 'G', 'r', 'R', 'O', 'T'], ['b', 'F', 'g', 'i', 'M', 'o', 'S', 'w', 'W'],
      [("--ignore-case", 'f'), ("--width", 'w'), ("--gap-size", 'g')], false⟩ 1 fun p name g => do
    let mut all : List Char := []
    for file in orInput g.operands do
      match ← content p file with
      | .ok text => all := all ++ text.toList ++ (if text.endsWith "\n" || text.isEmpty then [] else ['\n'])
      | .error e =>
        complain p name (shownIfNeeded file ++ ": " ++ e.text)
        return 1
    let text := all.toArray
    let words := occurrences text (text.size + 1) 0
    let key (o : Occurrence) : String :=
      let word := String.ofList (text.extract o.word.start o.word.stop).toList
      if g.has 'f' then word.toUpper else word
    let longest := words.foldl (fun n o => max n o.word.size) 0
    let half := (((g.valueOf? 'w').bind number?).getD 72) / 2
    let m : Measure := ⟨half, ((g.valueOf? 'g').bind number?).getD 3, longest⟩
    for o in words.mergeSort fun a b => !(key b < key a) do p.say (line text m o)
    return 0

end CompileTree.Shell.Utility
