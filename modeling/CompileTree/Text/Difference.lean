/-! # Differences

Which lines of two texts are to be changed so that one becomes the other. Lines count by
their classes, which are the same for lines that are held to be the same. As few lines as
possible are changed; the middle of a shortest way is sought from both ends at once, and
runs of changed lines stand as far behind as they can.
-/

namespace CompileTree.Text.Difference

/-- Which lines of the two texts are changed. -/
structure Edits where
  removed : Array Bool
  added : Array Bool

/-- The parts of two texts between which differences are sought. -/
structure Region where
  firstStart : Nat
  firstStop : Nat
  secondStart : Nat
  secondStop : Nat

/-- How many lines are the same from two positions on. -/
def sameAhead (a b : Array Nat) (r : Region) : Nat → Nat → Nat → Nat
  | 0, _, _ => 0
  | fuel + 1, x, y =>
    if x < r.firstStop && y < r.secondStop && a[x]? == b[y]? then
      sameAhead a b r fuel (x + 1) (y + 1) + 1
    else 0

/-- How many lines are the same up to two positions. -/
def sameBehind (a b : Array Nat) (r : Region) : Nat → Nat → Nat → Nat
  | 0, _, _ => 0
  | fuel + 1, x, y =>
    if r.firstStart < x && r.secondStart < y && a[x - 1]? == b[y - 1]? then
      sameBehind a b r fuel (x - 1) (y - 1) + 1
    else 0

/-- How far a search has come on each diagonal, from both ends, and the diagonals that it
    looks at. A diagonal is a difference of two positions. -/
structure Search where
  ahead : Array Int
  behind : Array Int
  aheadLow : Int
  aheadHigh : Int
  behindLow : Int
  behindHigh : Int

/-- The greatest position that is ever looked at, and more. -/
def farthest : Int := 4611686018427387904

/-- The diagonals from a highest one down to a lowest one in steps of two. -/
def diagonals (high low : Int) : List Int :=
  if high < low then []
  else (List.range (((high - low) / 2).toNat + 1)).map fun (i : Nat) => high - 2 * (i : Int)

/-- One more step from the start on every diagonal; where the two searches meet, the place
    is returned as an error. -/
def stepAhead (a b : Array Nat) (r : Region) (shift : Int) (odd : Bool) (s : Search) :
    Except (Nat × Nat) Search := do
  let at_ (v : Array Int) (d : Int) : Int := v[(d + shift).toNat]?.getD (-1)
  let put (v : Array Int) (d x : Int) : Array Int := v.set! (d + shift).toNat x
  let least : Int := (r.firstStart : Int) - r.secondStop
  let most : Int := (r.firstStop : Int) - r.secondStart
  let (low, v) := if least < s.aheadLow then (s.aheadLow - 1, put s.ahead (s.aheadLow - 2) (-1))
    else (s.aheadLow + 1, s.ahead)
  let (high, v) := if s.aheadHigh < most then (s.aheadHigh + 1, put v (s.aheadHigh + 2) (-1))
    else (s.aheadHigh - 1, v)
  let mut v := v
  for d in diagonals high low do
    let before := at_ v (d - 1)
    let after := at_ v (d + 1)
    let x := (if before < after then after else before + 1).toNat
    let y := ((x : Int) - d).toNat
    let x := x + sameAhead a b r (r.firstStop - x) x y
    v := put v d x
    if odd && s.behindLow ≤ d && d ≤ s.behindHigh && at_ s.behind d ≤ x then
      throw (x, ((x : Int) - d).toNat)
  return { s with ahead := v, aheadLow := low, aheadHigh := high }

/-- One more step from the end on every diagonal. -/
def stepBehind (a b : Array Nat) (r : Region) (shift : Int) (odd : Bool) (s : Search) :
    Except (Nat × Nat) Search := do
  let at_ (v : Array Int) (d : Int) : Int := v[(d + shift).toNat]?.getD farthest
  let put (v : Array Int) (d x : Int) : Array Int := v.set! (d + shift).toNat x
  let least : Int := (r.firstStart : Int) - r.secondStop
  let most : Int := (r.firstStop : Int) - r.secondStart
  let (low, v) := if least < s.behindLow then
      (s.behindLow - 1, put s.behind (s.behindLow - 2) farthest)
    else (s.behindLow + 1, s.behind)
  let (high, v) := if s.behindHigh < most then
      (s.behindHigh + 1, put v (s.behindHigh + 2) farthest)
    else (s.behindHigh - 1, v)
  let mut v := v
  for d in diagonals high low do
    let before := at_ v (d - 1)
    let after := at_ v (d + 1)
    let x := (if before < after then before else after - 1).toNat
    let y := ((x : Int) - d).toNat
    let x := x - sameBehind a b r (x - r.firstStart) x y
    v := put v d x
    if !odd && s.aheadLow ≤ d && d ≤ s.aheadHigh && (x : Int) ≤ at_ s.ahead d then
      throw (x, ((x : Int) - d).toNat)
  return { s with behind := v, behindLow := low, behindHigh := high }

/-- Steps from both ends until the searches meet; `fuel` bounds their number. -/
def meetWithin (a b : Array Nat) (r : Region) (shift : Int) (odd : Bool) :
    Nat → Search → Nat × Nat
  | 0, _ => (r.firstStop, r.secondStart)
  | fuel + 1, s =>
    match stepAhead a b r shift odd s >>= stepBehind a b r shift odd with
    | .error place => place
    | .ok s => meetWithin a b r shift odd fuel s

/-- A place in the middle of a shortest way through a region. -/
def middle (a b : Array Nat) (r : Region) : Nat × Nat :=
  let shift : Int := b.size + 2
  let size := a.size + b.size + 5
  let forward : Int := (r.firstStart : Int) - r.secondStart
  let backward : Int := (r.firstStop : Int) - r.secondStop
  let odd := (forward - backward) % 2 != 0
  let s : Search := {
    ahead := (Array.replicate size (-1)).set! (forward + shift).toNat r.firstStart
    behind := (Array.replicate size farthest).set! (backward + shift).toNat r.firstStop
    aheadLow := forward, aheadHigh := forward, behindLow := backward, behindHigh := backward }
  meetWithin a b r shift odd (a.size + b.size + 1) s

/-- Note the lines of a region that are changed; `fuel` bounds how often it is divided. -/
def compareWithin (a b : Array Nat) : Nat → Region → Edits → Edits
  | 0, _, e => e
  | fuel + 1, r, e =>
    let n := sameAhead a b r (r.firstStop - r.firstStart) r.firstStart r.secondStart
    let r := { r with firstStart := r.firstStart + n, secondStart := r.secondStart + n }
    let n := sameBehind a b r (r.firstStop - r.firstStart) r.firstStop r.secondStop
    let r := { r with firstStop := r.firstStop - n, secondStop := r.secondStop - n }
    let mark (v : Array Bool) (start stop : Nat) : Array Bool :=
      (List.range' start (stop - start)).foldl (fun v i => v.set! i true) v
    if r.firstStart = r.firstStop then
      { e with added := mark e.added r.secondStart r.secondStop }
    else if r.secondStart = r.secondStop then
      { e with removed := mark e.removed r.firstStart r.firstStop }
    else
      let (x, y) := middle a b r
      let e := compareWithin a b fuel { r with firstStop := x, secondStop := y } e
      compareWithin a b fuel { r with firstStart := x, secondStart := y } e

/-- The position behind a run of changed lines. -/
def runEnd (changed : Array Bool) (i : Nat) : Nat → Nat
  | 0 => i
  | fuel + 1 => if changed[i]?.getD false then runEnd changed (i + 1) fuel else i

/-- The position at which a run of changed lines starts that ends before a position. -/
def runStart (changed : Array Bool) (i : Nat) : Nat → Nat
  | 0 => i
  | fuel + 1 =>
    if 0 < i && (changed[i - 1]?.getD false) then runStart changed (i - 1) fuel else i

/-- The last unchanged line up to a position. -/
def keptBefore (changed : Array Bool) : Nat → Nat
  | 0 => 0
  | i + 1 => if changed[i + 1]?.getD false then keptBefore changed i else i + 1

/-- A run of changed lines that is moved, and the position in the other text that
    corresponds to its end. -/
structure Moving where
  changed : Array Bool
  start : Nat
  stop : Nat
  other : Nat
  /-- The last end of the run at which the other text has a run as well. -/
  matching : Option Nat

namespace Moving

/-- Move a run to the front as far as that can be, joining it with those before. -/
def back (lines : Array Nat) (others : Array Bool) : Nat → Moving → Moving
  | 0, m => m
  | fuel + 1, m =>
    if 0 < m.start && lines[m.start - 1]? == lines[m.stop - 1]? then
      let changed := (m.changed.set! (m.start - 1) true).set! (m.stop - 1) false
      let start := runStart changed (m.start - 1) (m.start - 1)
      let other := keptBefore others (m.other - 1)
      back lines others fuel { m with changed, start, stop := m.stop - 1, other }
    else m

/-- Move a run to the end as far as that can be, joining it with those behind. -/
def forth (lines : Array Nat) (others : Array Bool) : Nat → Moving → Moving
  | 0, m => m
  | fuel + 1, m =>
    if m.stop < lines.size && lines[m.start]? == lines[m.stop]? then
      let changed := (m.changed.set! m.start false).set! m.stop true
      let stop := runEnd changed (m.stop + 1) lines.size
      let other := runEnd others (m.other + 1) others.size
      let matching := if others[m.other + 1]?.getD false then some stop else m.matching
      forth lines others fuel { changed, start := m.start + 1, stop, other, matching }
    else m

/-- Move a run back and forth until it grows no more. -/
def settle (lines : Array Nat) (others : Array Bool) : Nat → Moving → Moving
  | 0, m => m
  | fuel + 1, m =>
    let size := m.stop - m.start
    let m := back lines others (lines.size + 1) m
    let matching := if 0 < m.other && (others[m.other - 1]?.getD false) then some m.stop else none
    let m := forth lines others (lines.size + 1) { m with matching }
    if m.stop - m.start = size then m else settle lines others fuel m

/-- Move a run back to where the other text has a run as well, if there is such a place. -/
def align (others : Array Bool) : Nat → Moving → Moving
  | 0, m => m
  | fuel + 1, m =>
    if m.matching.any (· < m.stop) && 0 < m.start then
      let changed := (m.changed.set! (m.start - 1) true).set! (m.stop - 1) false
      let other := keptBefore others (m.other - 1)
      align others fuel { m with changed, start := m.start - 1, stop := m.stop - 1, other }
    else m

end Moving

/-- Move the runs of changed lines of one text as far to the end as they can be. -/
def shiftRuns (lines : Array Nat) (others : Array Bool) :
    Nat → Nat → Nat → Array Bool → Array Bool
  | 0, _, _, changed => changed
  | fuel + 1, i, j, changed =>
    if lines.size ≤ i then changed
    else if changed[i]?.getD false then
      let stop := runEnd changed i lines.size
      let m := Moving.settle lines others (lines.size + 1)
        ⟨changed, i, stop, runEnd others j others.size, none⟩
      let m := m.align others (lines.size + 1)
      shiftRuns lines others fuel m.stop m.other m.changed
    else shiftRuns lines others fuel (i + 1) (runEnd others j others.size + 1) changed

/-- The lines of a text that count in the search, by their positions: those that the other
    text has as well. -/
def shared (lines others : Array Nat) : Array Nat :=
  let most := others.foldl max 0
  let seen := others.foldl (fun (v : Array Bool) c => v.set! c true) (Array.replicate (most + 1) false)
  (Array.range lines.size).filter fun i => (lines[i]?.bind (seen[·]?)).getD false

/-- The lines that are changed between two texts whose lines have given classes. -/
def edits (a b : Array Nat) : Edits :=
  let places := shared a b
  let otherPlaces := shared b a
  let pick (lines places : Array Nat) : Array Nat := places.map fun i => lines[i]?.getD 0
  let a' := pick a places
  let b' := pick b otherPlaces
  let inner := compareWithin a' b' (a.size + b.size + 1) ⟨0, a'.size, 0, b'.size⟩
    ⟨Array.replicate a'.size false, Array.replicate b'.size false⟩
  let spread (size : Nat) (places : Array Nat) (marks : Array Bool) : Array Bool :=
    (places.zip marks).foldl (fun v (i, changed) => v.set! i changed) (Array.replicate size true)
  let removed := spread a.size places inner.removed
  let added := spread b.size otherPlaces inner.added
  let removed := shiftRuns a added (a.size + 1) 0 0 removed
  let added := shiftRuns b removed (b.size + 1) 0 0 added
  ⟨removed, added⟩

/-- A place where lines are taken away, added or both. Lines are counted from zero. -/
structure Change where
  first : Nat
  removed : Nat
  second : Nat
  added : Nat
  deriving DecidableEq, Repr

/-- The changes that edits make, from two positions on. -/
def changesFrom (e : Edits) : Nat → Nat → Nat → List Change
  | 0, _, _ => []
  | fuel + 1, i, j =>
    if e.removed.size ≤ i && e.added.size ≤ j then []
    else
      let stop := runEnd e.removed i e.removed.size
      let otherStop := runEnd e.added j e.added.size
      if i < stop || j < otherStop then
        ⟨i, stop - i, j, otherStop - j⟩ :: changesFrom e fuel stop otherStop
      else changesFrom e fuel (i + 1) (j + 1)

/-- The changes between two texts whose lines have given classes. What they have in common at
    their starts and at their ends does not count, apart from a number of lines there. -/
def changes (horizon : Nat) (a b : Array Nat) : List Change :=
  let whole : Region := ⟨0, a.size, 0, b.size⟩
  let start := sameAhead a b whole a.size 0 0 - horizon
  let rest : Region := ⟨start, a.size, start, b.size⟩
  let stop := sameBehind a b rest (a.size - start) a.size b.size - horizon
  let a := a.extract start (a.size - stop)
  let b := b.extract start (b.size - stop)
  (changesFrom (edits a b) (a.size + b.size + 2) 0 0).map fun c =>
    { c with first := c.first + start, second := c.second + start }

/-- The classes of lines of two texts by what counts of each line. -/
def classes (a b : List String) : Array Nat × Array Nat :=
  let all := (a ++ b).foldl (fun (known : List (String × Nat) × List Nat) line =>
    match known.1.lookup line with
    | some n => (known.1, n :: known.2)
    | none => ((line, known.1.length) :: known.1, known.1.length :: known.2)) ([], [])
  let numbers := all.2.reverse
  ((numbers.take a.length).toArray, (numbers.drop a.length).toArray)

example : changes 0 #[0, 1, 2] #[0, 2, 3] = [⟨1, 1, 1, 0⟩, ⟨3, 0, 2, 1⟩] := by decide +kernel

end CompileTree.Text.Difference
