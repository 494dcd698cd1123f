import CompileTree.Shell.Pattern

/-! # Regular expressions

Expressions that are sought in lines, in the basic or the extended spelling. The
first place counts, and there the longest match.
-/

namespace CompileTree.Shell.Utility

/-- Where a line or a word starts or ends. -/
inductive Edge where
  | textStart
  | textFinish
  | lineStart
  | lineFinish
  | wordStart
  | wordFinish
  /-- The start or the end of a word. -/
  | word
  /-- Anywhere else. -/
  | within
  /-- Where no word goes on to the left, and where none goes on to the right. -/
  | afterGap
  | beforeGap
  deriving DecidableEq, Repr

namespace Edge

/-- Whether a character belongs to words. -/
def isWordly (c : Char) : Bool := c.isAlphanum || c == '_'

/-- Whether an edge is between the text before a place, in reverse, and what follows. -/
def isAt (e : Edge) (before rest : List Char) : Bool :=
  let behind := before.head?.any isWordly
  let ahead := rest.head?.any isWordly
  match e with
  | .textStart => before.isEmpty
  | .textFinish => rest.isEmpty
  | .lineStart => before.head?.all (· == '\n')
  | .lineFinish => rest.head?.all (· == '\n')
  | .wordStart => !behind && ahead
  | .wordFinish => behind && !ahead
  | .word => behind != ahead
  | .within => behind == ahead
  | .afterGap => !behind
  | .beforeGap => !ahead

end Edge

/-- A regular expression. -/
inductive Regex where
  | nothing
  | one (c : Char)
  | any
  | set (negated : Bool) (members : List Member)
  | edge (e : Edge)
  | both (a b : Regex)
  | either (a b : Regex)
  | repeated (r : Regex) (least : Nat) (most : Option Nat)
  | group (n : Nat) (r : Regex)
  /-- What a group has matched. -/
  | again (n : Nat)
  /-- A repetition that ends as soon as it can. -/
  | lazily (r : Regex) (least : Nat) (most : Option Nat)
  /-- Whether an expression matches behind a place or ends there, which takes nothing. -/
  | look (backward negated : Bool) (r : Regex)
  /-- What was matched so far does not count. -/
  | keep
  /-- The first match that is found counts, even if there are longer ones. -/
  | soonest (r : Regex)
  deriving Repr

namespace Regex

/-- Whether there is a choice, of which the first that fits need not be the longest. -/
def hasChoice : Regex → Bool
  | .either .. => true
  | .both a b => a.hasChoice || b.hasChoice
  | .repeated r .. | .group _ r => r.hasChoice
  | .lazily .. => true
  | _ => false

/-- A place in a line, with what groups have matched before it. What does not count of a
    match is kept as that of no group, in reverse. -/
structure Place where
  before : List Char
  rest : List Char
  groups : List (Nat × List Char)

/-- Match an expression at a place, and go on; `fuel` bounds the steps. -/
def run (fold : Char → Char) : Nat → Regex → Place → (Place → Option Place) → Option Place
  | 0, _, _, _ => none
  | fuel + 1, r, at_, next =>
    let step (accepts : Char → Bool) : Option Place :=
      match at_.rest with
      | c :: rest =>
        if accepts c then next { at_ with before := c :: at_.before, rest } else none
      | [] => none
    match r with
    | .nothing => next at_
    | .one c => step fun d => fold c == fold d
    | .any => step fun _ => true
    | .set negated members =>
      step fun d => (members.any fun m => m.has d || m.has (fold d) || m.has d.toUpper && fold 'A' == 'a')
        != negated
    | .edge e => if e.isAt at_.before at_.rest then next at_ else none
    | .both a b => run fold fuel a at_ fun p => run fold fuel b p next
    | .either a b => (run fold fuel a at_ next).or (run fold fuel b at_ next)
    | .group n r =>
      run fold fuel r at_ fun p =>
        let text := (p.before.take (p.before.length - at_.before.length)).reverse
        next { p with groups := (n, text) :: p.groups.filter (·.1 != n) }
    | .again n =>
      match at_.groups.lookup n with
      | some text =>
        if text.isPrefixOf at_.rest then
          next { at_ with
            before := text.reverse ++ at_.before
            rest := at_.rest.drop text.length }
        else none
      | none => none
    | .repeated r least most =>
      let more := if most == some 0 then none
        else run fold fuel r at_ fun p =>
          if least = 0 ∧ p.rest.length = at_.rest.length then none
          else run fold fuel (.repeated r (least - 1) (most.map (· - 1))) p next
      if least = 0 then more.or (next at_) else more
    | .lazily r least most =>
      let more (_ : Unit) : Option Place := if most == some 0 then none
        else run fold fuel r at_ fun p =>
          if least = 0 ∧ p.rest.length = at_.rest.length then none
          else run fold fuel (.lazily r (least - 1) (most.map (· - 1))) p next
      if least = 0 then (next at_).or (more ()) else more ()
    | .look false negated r =>
      match run fold fuel r at_ some with
      | some p => if negated then none else next { at_ with groups := p.groups }
      | none => if negated then next at_ else none
    | .look true negated r =>
      let endsHere (n : Nat) : Bool :=
        let start : Place :=
          ⟨at_.before.drop n, (at_.before.take n).reverse ++ at_.rest, at_.groups⟩
        (run fold fuel r start fun p =>
          if p.rest.length = at_.rest.length then some p else none).isSome
      if (List.range (at_.before.length + 1)).any endsHere != negated then next at_ else none
    | .keep => next { at_ with groups := (0, at_.before) :: at_.groups.filter (·.1 != 0) }
    | .soonest r => run fold fuel r at_ next

/-- How expressions are spelled, and what is refused. -/
structure Dialect where
  /-- Whether operators stand without a backslash. -/
  extended : Bool
  /-- Whether it is refused to repeat what is no expression or is repeated already, and
      whether in the extended spelling a parenthesis that closes nothing and bounds that
      are none are refused; otherwise these stand for themselves. -/
  strict : Bool
  /-- Whether a range may end before it starts. -/
  emptyRanges : Bool
  /-- Whether every line of a text counts for itself. -/
  byLine : Bool

/-- The expression of a spelling, and the rest that is no part of it. -/
structure Reading where
  rest : List Char
  groups : Nat
  /-- The groups that are complete. -/
  closed : List Nat

/-- Steps in which an expression is read. -/
abbrev Reader := StateT Reading (Except String)

namespace Dialect

/-- The spelling for seeking lines. -/
def seeking (extended : Bool) : Dialect := ⟨extended, false, false, false⟩

/-- The spelling for editing lines. -/
def editing (extended byLine : Bool) : Dialect := ⟨extended, true, false, byLine⟩

/-- The spelling in expressions. -/
def valuing : Dialect := ⟨false, false, true, false⟩

/-- The bound of a repetition that is spelled up to a comma or what closes the bounds: its
    number if it is not empty, or nothing if it is none. What ends it is left. -/
def bound (closing : List Char) : Option (Option Nat) → List Char → Option (Option Nat) × List Char
  | n, [] => (n, [])
  | n, c :: cs =>
    if c = ',' ∨ closing.isPrefixOf (c :: cs) then (n, c :: cs)
    else
      let digit := if c.isDigit then some (c.toNat - 48) else none
      let more := match n, digit with
        | some m, some d => some (some (min 32768 (10 * m.getD 0 + d)))
        | _, _ => none
      bound closing more cs

/-- What ends the bounds of repetitions. -/
def closing (d : Dialect) : List Char := if d.extended then ['\x7d'] else ['\\', '\x7d']

/-- The bounds of a repetition at the start of a text, with what follows, or nothing if
    they are none and stand for themselves. -/
def bounds (d : Dialect) (cs : List Char) :
    Except String (Option ((Nat × Option Nat) × List Char)) := do
  let fault (rest : List Char) : Except String (Option ((Nat × Option Nat) × List Char)) :=
    if d.extended && !d.strict then .ok none
    else if rest.isEmpty then .error "Unmatched \\\x7b"
    else .error "Invalid content of \\\x7b\\\x7d"
  let (least, rest) := bound d.closing (some none) cs
  let (most, rest) : Option (Option Nat) × List Char := match least, rest with
    | some _, ',' :: rest => bound d.closing (some none) rest
    | least, rest => (least, rest)
  match least, most with
  | some least, some most =>
    let isMissing := least.isNone && most.isNone && cs.head? != some ','
    match d.closing.isPrefixOf? rest with
    | none => fault rest
    | some after =>
      if isMissing then fault rest
      else
        let low := least.getD 0
        if most.any (· < low) then throw "Invalid content of \\\x7b\\\x7d"
        if 32767 < most.getD low then throw "Regular expression too big"
        return some ((low, most), after)
  | _, _ => fault rest

/-- What a repetition sign at the start of a text stands for, with what follows. -/
def repetition? (d : Dialect) (cs : List Char) :
    Except String (Option ((Nat × Option Nat) × List Char)) :=
  match d.extended, cs with
  | _, '*' :: rest => .ok (some ((0, none), rest))
  | true, '+' :: rest | false, '\\' :: '+' :: rest => .ok (some ((1, none), rest))
  | true, '?' :: rest | false, '\\' :: '?' :: rest => .ok (some ((0, some 1), rest))
  | true, '\x7b' :: rest | false, '\\' :: '\x7b' :: rest => d.bounds rest
  | _, _ => .ok none

/-- Whether a repetition sign that must not follow another one is at the start of a text. -/
def isClash (d : Dialect) (cs : List Char) : Bool :=
  d.strict && !d.extended && (cs.head? == some '*' || ['\\', '\x7b'].isPrefixOf cs)

/-- The repetitions behind an expression; `fuel` bounds their number. -/
def readRepetitions (d : Dialect) : Nat → Regex → Reader Regex
  | 0, r => return r
  | fuel + 1, r => do
    match ← d.repetition? (← get).rest with
    | none => return r
    | some ((least, most), rest) =>
      if d.isClash rest then throw "Invalid preceding regular expression"
      modify fun s => { s with rest }
      d.readRepetitions fuel (.repeated r least most)

/-- Whether what is left starts with what separates or closes alternatives. -/
def atSeparator (d : Dialect) (nested : Bool) (cs : List Char) : Bool :=
  match d.extended, cs with
  | _, [] => true
  | true, '|' :: _ | false, '\\' :: '|' :: _ | false, '\\' :: ')' :: _ => true
  | true, ')' :: _ => nested || d.strict
  | _, _ => false

/-- What a symbol such as a class has between its marks, at the start of a text behind the
    first mark, and what follows it. -/
def symbol (mark : Char) : List Char → Option (List Char × List Char)
  | [] => none
  | c :: cs =>
    if c = mark ∧ cs.head? = some ']' then some ([], cs.drop 1)
    else (symbol mark cs).map fun (name, rest) => (c :: name, rest)

/-- The first or last character of a range at the start of a text, and what follows. -/
def limit : List Char → Except String (Char × List Char)
  | '[' :: mark :: cs =>
    if mark = '.' ∨ mark = '=' then
      match symbol mark cs with
      | some ([c], rest) => .ok (c, rest)
      | some _ => .error "Invalid collation character"
      | none => .error "Unmatched [, [^, [:, [., or [="
    else .ok ('[', mark :: cs)
  | c :: cs => .ok (c, cs)
  | [] => .error "Unmatched [, [^, [:, [., or [="

/-- The members of a set up to its closing bracket, and what follows it; `fuel` bounds
    their number. -/
def members (d : Dialect) : Nat → Bool → List Char → Except String (List Member × List Char)
  | 0, _, _ => .error "Unmatched [, [^, [:, [., or [="
  | fuel + 1, first, cs => do
    match cs with
    | ']' :: rest => if !first then return ([], rest)
    | _ => pure ()
    let (m, rest) ← match cs with
      | '[' :: ':' :: cs =>
        match symbol ':' cs with
        | none => throw "Unmatched [, [^, [:, [., or [="
        | some (name, rest) =>
          let name := String.ofList name
          if name ∈ Member.kinds then pure (Member.kind name, rest)
          else throw "Invalid character class name"
      | cs =>
        let (low, rest) ← limit cs
        match rest with
        | '-' :: c :: more =>
          if c = ']' then pure (Member.range low low, rest)
          else
            let (high, rest) ← limit (c :: more)
            if high < low ∧ !d.emptyRanges then throw "Invalid range end"
            pure (.range low high, rest)
        | rest => pure (.range low low, rest)
    let (ms, rest) ← d.members fuel false rest
    return (m :: ms, rest)

/-- A single expression; `inner` reads what stands in parentheses. -/
def readAtom (d : Dialect) (inner : Reader Regex) (nested atStart : Bool) : Reader Regex := do
  let take (rest : List Char) (r : Regex) : Reader Regex := do
    modify fun s => { s with rest }
    return r
  let start := Regex.edge (if d.byLine then .lineStart else .textStart)
  let finish := Regex.edge (if d.byLine then .lineFinish else .textFinish)
  match d.extended, (← get).rest with
  | true, '(' :: rest | false, '\\' :: '(' :: rest =>
    let n := (← get).groups + 1
    modify fun s => { s with rest, groups := n }
    let r ← inner
    match d.extended, (← get).rest with
    | true, ')' :: rest | false, '\\' :: ')' :: rest =>
      modify fun s => { s with closed := n :: s.closed }
      take rest (.group n r)
    | _, _ => throw "Unmatched ( or \\("
  | _, '\\' :: c :: rest =>
    let gap := [Member.kind "space"]
    let wordly := [Member.kind "alnum", .range '_' '_']
    match c with
    | 's' => take rest (.set false gap)
    | 'S' => take rest (.set true gap)
    | 'w' => take rest (.set false wordly)
    | 'W' => take rest (.set true wordly)
    | 'b' => take rest (.edge .word)
    | 'B' => take rest (.edge .within)
    | '<' => take rest (.edge .wordStart)
    | '>' => take rest (.edge .wordFinish)
    | '\x60' => take rest (.edge .textStart)
    | '\'' => take rest (.edge .textFinish)
    | c =>
      if '1' ≤ c ∧ c ≤ '9' then
        if c.toNat - 48 ∈ (← get).closed then take rest (.again (c.toNat - 48))
        else throw "Invalid back reference"
      else take rest (.one c)
  | _, ['\\'] => throw "Trailing backslash"
  | _, '.' :: rest => take rest (if d.byLine then .set true [.range '\n' '\n'] else .any)
  | _, '[' :: rest =>
    let (negated, cs) := match rest with
      | '^' :: cs => (true, cs)
      | cs => (false, cs)
    if cs.isEmpty then throw "Invalid regular expression"
    let (members, after) ← d.members (cs.length + 1) true cs
    take after (.set negated (if negated && d.byLine then .range '\n' '\n' :: members else members))
  | true, '^' :: rest => take rest start
  | false, '^' :: rest => take rest (if atStart then start else .one '^')
  | true, '$' :: rest => take rest finish
  | false, '$' :: rest => take rest (if d.atSeparator nested rest then finish else .one '$')
  | _, c :: rest => take rest (.one c)
  | _, [] => return .nothing

/-- What stands at the start of a sequence, where there is nothing to repeat: a repetition
    sign is refused, repeats nothing or stands for itself. -/
def readStart (d : Dialect) (atom : Reader Regex) : Reader Regex := do
  let rest := (← get).rest
  match ← d.repetition? rest with
  | none => atom
  | some (_, after) =>
    if d.strict && (d.extended || ['\\', '\x7b'].isPrefixOf rest) then
      throw "Invalid preceding regular expression"
    if d.extended then
      modify fun s => { s with rest := after }
      return .nothing
    else
      let sign := if rest.head? = some '\\' then rest.drop 1 else rest
      modify fun s => { s with rest := sign.drop 1 }
      return .one (sign.headD '*')

/-- Expressions that follow each other; `fuel` bounds their number. At the start, and
    behind an edge, there is nothing to repeat. -/
def readSequence (d : Dialect) (inner : Reader Regex) (nested : Bool) :
    Nat → Bool → Bool → Reader Regex
  | 0, _, _ => return .nothing
  | fuel + 1, atStart, isBare => do
    if d.atSeparator nested (← get).rest then return .nothing
    let atom := d.readAtom inner nested atStart
    match ← if isBare then d.readStart atom else atom with
    | .edge e => return .both (.edge e) (← d.readSequence inner nested fuel false true)
    | a =>
      let r ← d.readRepetitions ((← get).rest.length + 1) a
      return .both r (← d.readSequence inner nested fuel false false)

/-- Alternatives of sequences; `fuel` bounds how deep they stand in each other. -/
def readAll (d : Dialect) : Nat → Bool → Reader Regex
  | 0, _ => throw "Invalid regular expression"
  | fuel + 1, nested => do
    let first ← d.readSequence (d.readAll fuel true) nested ((← get).rest.length + 1) true true
    match d.extended, (← get).rest with
    | true, '|' :: rest | false, '\\' :: '|' :: rest =>
      modify fun s => { s with rest }
      return .either first (← d.readAll fuel nested)
    | _, _ => return first

/-- The expression that a text spells, and the number of its groups. -/
def read (d : Dialect) (text : List Char) : Except String (Regex × Nat) := do
  match ← (d.readAll (text.length + 1) false).run ⟨text, 0, []⟩ with
  | (r, ⟨[], n, _⟩) => return (r, n)
  | (_, _) => throw "Unmatched ) or \\)"

end Dialect

/-- A place where an expression matches: what stands before it, what it matches, what
    follows, and what its groups match. -/
structure Match where
  before : List Char
  matched : List Char
  after : List Char
  groups : List (Nat × List Char)

/-- The longest of the places where a match can end, each of which is further than the
    one before; `rounds` bounds their number. -/
def longest (attempt : (Place → Option Place) → Option Place) : Nat → Place → Place
  | 0, best => best
  | rounds + 1, best =>
    if best.rest.isEmpty then best
    else
      match attempt fun p => if p.rest.length < best.rest.length then some p else none with
      | some better => longest attempt rounds better
      | none => best

/-- The first match in what is left of a line, whose start stands before it in reverse. -/
def search (r : Regex) (fold : Char → Char) (before rest : List Char) : Option Match :=
  let fuel := 20 * (before.length + rest.length) + 10000
  let attempt := run fold fuel r ⟨before, rest, []⟩
  match attempt some with
  | some p =>
    let p := if r.hasChoice then longest attempt (rest.length + 1) p else p
    let start := (p.groups.lookup 0).getD before
    some ⟨start.reverse, (p.before.take (p.before.length - start.length)).reverse, p.rest, p.groups⟩
  | none =>
    match rest with
    | [] => none
    | c :: cs => search r fold (c :: before) cs

/-- Whether an expression matches anywhere in a line. -/
def occurs (r : Regex) (fold : Char → Char) (line : String) : Bool :=
  (search r fold [] line.toList).isSome

/-- The matches in a line that do not overlap; an empty one does not stand at the end of
    another. `fuel` bounds their number, and `last` is whether a match ends here. -/
def occurrences (r : Regex) (fold : Char → Char) : Nat → Bool → List Char → List Char → List Match
  | 0, _, _, _ => []
  | fuel + 1, last, before, rest =>
    match r.search fold before rest with
    | none => []
    | some m =>
      let before' := m.matched.reverse ++ m.before.reverse
      match m.matched, m.after with
      | [], after =>
        let found := if last && m.before.length == before.length then [] else [m]
        match after with
        | c :: cs => found ++ occurrences r fold fuel false (c :: before') cs
        | [] => found
      | _, after => m :: occurrences r fold fuel true before' after

example : (((Dialect.seeking false).read "a\\(b*\\)c".toList).toOption.bind fun r =>
    (r.1.search id [] "xabbc".toList).map fun m => m.groups) = some [(1, ['b', 'b'])] := by
  decide +kernel

end Regex

end CompileTree.Shell.Utility
