import CompileTree.Shell.Pattern

/-! # Patterns with alternatives

Patterns as other shells have them, and with alternatives in parentheses: one of them,
none or one, any number, at least one, or anything else. Case may be ignored.
-/

namespace CompileTree.Shell.Extended

/-- How often one of some alternatives stands in a text. -/
inductive Times where
  | once
  | atMostOnce
  | any
  | some
  /-- None of them stands there. -/
  | never
  deriving DecidableEq, Repr

/-- What one part of a pattern stands for. -/
inductive GlobPart where
  | one (c : Char)
  | any
  | many
  | set (negated : Bool) (members : List Member)
  | choice (times : Times) (alternatives : List (List GlobPart))

/-- The parts of a pattern. -/
abbrev Glob := List GlobPart

namespace Glob

/-- How often alternatives stand behind a sign. -/
def times? : Char → Option Times
  | '@' => some .once
  | '?' => some .atMostOnce
  | '*' => some .any
  | '+' => some .some
  | '!' => some .never
  | _ => none

/-- The set at the start of a pattern, behind its bracket, and what follows it. -/
def set? (cs : Marked) : Option (GlobPart × Marked) :=
  let (negated, cs) := match cs with
    | ('!', false) :: rest | ('^', false) :: rest => (true, rest)
    | rest => (false, rest)
  (Pattern.members? (cs.length + 1) true cs).map fun (ms, rest) => (.set negated ms, rest)

/-- The texts of alternatives up to a closing parenthesis, and what follows it; `depth`
    parentheses are open within. -/
def alternatives? : Nat → Marked → Option (List Marked × Marked)
  | _, [] => none
  | depth, (c, quoted) :: cs =>
    let before (m : Char × Bool) (found : List Marked × Marked) : List Marked × Marked :=
      match found.1 with
      | first :: others => ((m :: first) :: others, found.2)
      | [] => ([[m]], found.2)
    if quoted then (alternatives? depth cs).map (before (c, quoted))
    else if c = '(' then (alternatives? (depth + 1) cs).map (before (c, quoted))
    else if c = ')' then
      match depth with
      | 0 => some ([[]], cs)
      | depth + 1 => (alternatives? depth cs).map (before (c, quoted))
    else if c = '|' ∧ depth = 0 then
      (alternatives? depth cs).map fun (others, rest) => ([] :: others, rest)
    else (alternatives? depth cs).map (before (c, quoted))

/-- The pattern that characters spell; `fuel` bounds their number. -/
def ofMarkedWithin (extended : Bool) : Nat → Marked → Glob
  | 0, _ | _ + 1, [] => []
  | fuel + 1, (c, quoted) :: cs =>
    let single (part : GlobPart) : Glob := part :: ofMarkedWithin extended fuel cs
    if quoted then single (.one c)
    else
      let choice : Option (Times × List Marked × Marked) := match extended, times? c, cs with
        | true, some times, ('(', false) :: rest =>
          (alternatives? 0 rest).map fun (texts, rest) => (times, texts, rest)
        | _, _, _ => none
      match choice with
      | some (times, texts, rest) =>
        .choice times (texts.map (ofMarkedWithin extended fuel)) ::
          ofMarkedWithin extended fuel rest
      | none =>
        if c = '*' then single .many
        else if c = '?' then single .any
        else if c = '[' then
          match set? cs with
          | some (s, rest) => s :: ofMarkedWithin extended fuel rest
          | none => single (.one c)
        else single (.one c)

/-- The pattern that characters spell; `extended` tells whether it may hold alternatives. -/
def ofMarked (extended : Bool) (cs : Marked) : Glob := ofMarkedWithin extended (cs.length + 1) cs

/-- Whether two characters are the same, or in either case if asked. -/
def same (fold : Bool) (c d : Char) : Bool :=
  c == d || (fold && c.toLower == d.toLower)

/-- Whether a member of a set stands for a character, or for it in another case if asked. -/
def holds (fold : Bool) (m : Member) (c : Char) : Bool :=
  m.has c || (fold && (m.has c.toLower || m.has c.toUpper))

/-- Whether a pattern stands for the start of a text such that what is left is accepted;
    `fuel` bounds the steps. -/
def leads (fold : Bool) : Nat → Glob → List Char → (List Char → Bool) → Bool
  | 0, _, _, _ => false
  | _ + 1, [], cs, accepts => accepts cs
  | fuel + 1, part :: rest, cs, accepts =>
    match part, cs with
    | .one c, d :: ds => same fold c d && leads fold fuel rest ds accepts
    | .any, _ :: ds => leads fold fuel rest ds accepts
    | .set negated members, d :: ds =>
      (members.any (holds fold · d) != negated) && leads fold fuel rest ds accepts
    | .many, cs =>
      if rest.isEmpty && accepts [] then true
      else
        leads fold fuel rest cs accepts ||
          (match cs with
          | [] => false
          | _ :: ds => leads fold fuel (.many :: rest) ds accepts)
    | .choice times alternatives, cs =>
      let after (cs : List Char) : Bool := leads fold fuel rest cs accepts
      let once (then_ : List Char → Bool) : Bool :=
        alternatives.any fun a => leads fold fuel a cs then_
      match times with
      | .once => once after
      | .atMostOnce => once after || after cs
      | .any =>
        after cs || once fun left => left.length < cs.length &&
          leads fold fuel (.choice .any alternatives :: rest) left accepts
      | .some => once fun left => leads fold fuel (.choice .any alternatives :: rest) left accepts
      | .never =>
        (List.range (cs.length + 1)).any fun n =>
          !(alternatives.any fun a =>
              leads fold fuel a (cs.take n) fun left => left.isEmpty) &&
            after (cs.drop n)
    | _, [] => false

/-- The number of parts of a pattern, those within others included; `fuel` bounds how deep
    they stand. -/
def sizeWithin : Nat → Glob → Nat
  | 0, _ => 0
  | fuel + 1, p => (p.map fun
      | .choice _ alternatives => (alternatives.map (sizeWithin fuel)).foldl (· + ·) 2
      | _ => 1).foldl (· + ·) 1

/-- A number of steps that suffices to match a pattern and a text. -/
def steps (p : Glob) (cs : List Char) : Nat := (sizeWithin 100 p + 2) * (cs.length + 2)

/-- Whether a pattern stands for a text. -/
def accepts (fold : Bool) (p : Glob) (cs : List Char) : Bool :=
  leads fold (steps p cs) p cs List.isEmpty

/-- The number of characters of the texts that a pattern stands for, if it is fixed. -/
def width? (p : Glob) : Option Nat :=
  if p.all fun
    | .one _ | .any | .set .. => true
    | _ => false
  then some p.length else none

/-- Whether a pattern may stand for more than one text. -/
def isOpen (p : Glob) : Bool :=
  p.any fun
    | .one _ => false
    | _ => true

/-- The text of a pattern that stands for one text. -/
def literal (p : Glob) : List Char :=
  p.filterMap fun
    | .one c => some c
    | _ => none

/-- How many characters of the start of a text a pattern stands for. -/
def startLength? (fold longest : Bool) (p : Glob) (cs : List Char) : Option Nat :=
  match width? p with
  | some n => if n ≤ cs.length && accepts fold p (cs.take n) then some n else none
  | none =>
    if leads fold (steps p cs) p cs fun _ => true then
      let lengths := List.range (cs.length + 1)
      (if longest then lengths.reverse else lengths).find? fun n => accepts fold p (cs.take n)
    else none

/-- How many characters are left when a pattern takes the end of a text off. -/
def restLength? (fold longest : Bool) (p : Glob) (cs : List Char) : Option Nat :=
  let lengths := List.range (cs.length + 1)
  (if longest then lengths else lengths.reverse).find? fun n => accepts fold p (cs.drop n)

/-- What has the characters of a text replaced that a pattern stands for; `other` is told
    them. `fuel` bounds how often. -/
def replacedWithin (fold all : Bool) (p : Glob) (other : List Char → List Char) :
    Nat → List Char → List Char
  | 0, cs => cs
  | _ + 1, [] => []
  | fuel + 1, c :: cs =>
    match startLength? fold true p (c :: cs) with
    | some (n + 1) =>
      let rest := (c :: cs).drop (n + 1)
      other ((c :: cs).take (n + 1)) ++
        if all then replacedWithin fold all p other fuel rest else rest
    | _ => c :: replacedWithin fold all p other fuel cs

end Glob

end CompileTree.Shell.Extended
