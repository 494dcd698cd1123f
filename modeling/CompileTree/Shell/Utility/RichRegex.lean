import CompileTree.Shell.Utility.Regex
import CompileTree.Text.Hex

/-! # Rich regular expressions

A third spelling of regular expressions, with repetitions that end as soon as they can,
groups that are not counted, and conditions on what stands around a match. Of several
ways to match, the first one counts.
-/

namespace CompileTree.Shell.Utility.Regex.Rich

/-- The members of a class that a letter behind a backslash stands for, and whether it
    stands for all others. -/
def classOf? (c : Char) : Option (Bool × List Member) :=
  let wordly := [Member.kind "alnum", .range '_' '_']
  match c with
  | 'd' => some (false, [.kind "digit"])
  | 'D' => some (true, [.kind "digit"])
  | 's' => some (false, [.kind "space"])
  | 'S' => some (true, [.kind "space"])
  | 'w' => some (false, wordly)
  | 'W' => some (true, wordly)
  | 'h' => some (false, [.kind "blank"])
  | 'H' => some (true, [.kind "blank"])
  | 'N' => some (true, [.range '\n' '\n'])
  | _ => none

/-- The members of all characters that are in none of some members. -/
def opposite (members : List Member) : List Member :=
  ((List.range 256).map Char.ofNat).filterMap fun c =>
    if members.any (·.has c) then none else some (.range c c)

/-- The character that stands behind a backslash, and what follows it. -/
def escaped (c : Char) (rest : List Char) : Char × List Char :=
  match c with
  | 'a' => ('\x07', rest)
  | 'e' => ('\x1b', rest)
  | 'f' => ('\x0c', rest)
  | 'n' => ('\n', rest)
  | 'r' => ('\r', rest)
  | 't' => ('\t', rest)
  | '0' => ('\x00', rest)
  | 'x' =>
    let digits := (rest.take 2).takeWhile fun d => (Text.hexValue? d).isSome
    (Char.ofNat ((Text.hexNumber? digits).getD 0), rest.drop digits.length)
  | c => (c, rest)

/-- The first or last character of a range, and what follows it. -/
def limit (cs : List Char) : Char × List Char :=
  match cs with
  | '\\' :: c :: rest => escaped c rest
  | c :: rest => (c, rest)
  | [] => ('\\', [])

/-- The members of a set up to its closing bracket; `fuel` bounds their number. -/
def members : Nat → Bool → List Char → Except String (List Member × List Char)
  | 0, _, _ | _, _, [] => .error "missing terminating ] for character class"
  | fuel + 1, first, cs => do
    if cs.head? = some ']' && !first then return ([], cs.drop 1)
    let kind? : Option (List Member × List Char) := match cs with
      | '\\' :: c :: rest =>
        (classOf? c).map fun (negated, ms) => (if negated then opposite ms else ms, rest)
      | '[' :: ':' :: rest => do
        let (name, rest) ← Dialect.symbol ':' rest
        let name := String.ofList name
        if name ∈ Member.kinds then some ([.kind name], rest.drop 1)
        else if name = "word" then some ([.kind "alnum", .range '_' '_'], rest.drop 1)
        else none
      | _ => none
    let (ms, rest) ← match kind? with
      | some found => pure found
      | none =>
        let (low, rest) := limit cs
        match rest with
        | '-' :: d :: more =>
          if d = ']' then pure ([Member.range low low], rest)
          else
            let (high, rest) := limit (d :: more)
            if high < low then throw "range out of order in character class"
            pure ([.range low high], rest)
        | rest => pure ([.range low low], rest)
    let (others, rest) ← members fuel false rest
    return (ms ++ others, rest)

/-- The bounds of a repetition at the start of a text, with what follows. -/
def bounds? (cs : List Char) : Option ((Nat × Option Nat) × List Char) :=
  match cs with
  | '*' :: rest => some ((0, none), rest)
  | '+' :: rest => some ((1, none), rest)
  | '?' :: rest => some ((0, some 1), rest)
  | '\x7b' :: rest =>
    let low := rest.takeWhile Char.isDigit
    let value (ds : List Char) : Nat := Nat.ofDigitChars 10 ds 0
    if low.isEmpty then none
    else match rest.drop low.length with
      | '\x7d' :: rest => some ((value low, some (value low)), rest)
      | ',' :: rest =>
        let high := rest.takeWhile Char.isDigit
        match rest.drop high.length with
        | '\x7d' :: rest =>
          some ((value low, if high.isEmpty then none else some (value high)), rest)
        | _ => none
      | _ => none
  | _ => none

/-- The repetitions behind an expression; `fuel` bounds their number. -/
def repetitions : Nat → Regex → Reader Regex
  | 0, r => return r
  | fuel + 1, r => do
    match bounds? (← get).rest with
    | none => return r
    | some ((least, most), rest) =>
      let (r, rest) := match rest with
        | '?' :: rest => (Regex.lazily r least most, rest)
        | '+' :: rest => (.repeated r least most, rest)
        | rest => (.repeated r least most, rest)
      modify fun s => { s with rest }
      repetitions fuel r

/-- How the inside of parentheses starts: what stands around it, what follows the start,
    and whether it is a group that is counted. -/
def opening (cs : List Char) : (Regex → Regex) × List Char × Bool :=
  match cs with
  | '?' :: ':' :: rest => (id, rest, false)
  | '?' :: '>' :: rest => (id, rest, false)
  | '?' :: '=' :: rest => (.look false false, rest, false)
  | '?' :: '!' :: rest => (.look false true, rest, false)
  | '?' :: '<' :: '=' :: rest => (.look true false, rest, false)
  | '?' :: '<' :: '!' :: rest => (.look true true, rest, false)
  | '?' :: '<' :: rest | '?' :: 'P' :: '<' :: rest => (id, (rest.dropWhile (· ≠ '>')).drop 1, true)
  | rest => (id, rest, true)

/-- A single expression; `inner` reads what stands in parentheses. -/
def atom (inner : Reader Regex) : Reader Regex := do
  let take (rest : List Char) (r : Regex) : Reader Regex := do
    modify fun s => { s with rest }
    return r
  match (← get).rest with
  | '(' :: rest =>
    let (around, rest, counts) := opening rest
    let n := (← get).groups + 1
    modify fun s => { s with rest, groups := if counts then n else s.groups }
    let r ← inner
    match (← get).rest with
    | ')' :: rest => take rest (around (if counts then .group n r else r))
    | _ => throw "missing closing parenthesis"
  | '[' :: rest =>
    let (negated, cs) := match rest with
      | '^' :: cs => (true, cs)
      | cs => (false, cs)
    let (ms, after) ← members (cs.length + 1) true cs
    take after (.set negated ms)
  | '.' :: rest => take rest (.set true [.range '\n' '\n'])
  | '^' :: rest => take rest (.edge .textStart)
  | '$' :: rest => take rest (.edge .textFinish)
  | ['\\'] => throw "\\ at end of pattern"
  | '\\' :: c :: rest =>
    match classOf? c with
    | some (negated, ms) => take rest (.set negated ms)
    | none =>
      match c with
      | 'b' => take rest (.edge .word)
      | 'B' => take rest (.edge .within)
      | 'A' => take rest (.edge .textStart)
      | 'z' | 'Z' => take rest (.edge .textFinish)
      | 'K' => take rest .keep
      | 'Q' =>
        let quoted := rest.take (rest.length - (unquoted rest).length)
        let literal := quoted.foldr (fun c r => .both (.one c) r) Regex.nothing
        take ((unquoted rest).drop 2) literal
      | c =>
        if '1' ≤ c ∧ c ≤ '9' then take rest (.again (c.toNat - 48))
        else
          let (c, rest) := escaped c rest
          take rest (.one c)
  | c :: rest =>
    if c = '*' ∨ c = '+' ∨ c = '?' then throw "quantifier does not follow a repeatable item"
    take rest (.one c)
  | [] => return .nothing
where
  /-- What is left from the end of a quotation on. -/
  unquoted : List Char → List Char
    | '\\' :: 'E' :: rest => '\\' :: 'E' :: rest
    | _ :: rest => unquoted rest
    | [] => []

/-- Expressions that follow each other; `fuel` bounds their number. -/
def sequence (inner : Reader Regex) : Nat → Reader Regex
  | 0 => return .nothing
  | fuel + 1 => do
    match (← get).rest with
    | [] | '|' :: _ | ')' :: _ => return .nothing
    | rest =>
      let r ← repetitions (rest.length + 1) (← atom inner)
      return .both r (← sequence inner fuel)

/-- Alternatives; `fuel` bounds how deep they stand in each other. -/
def alternatives : Nat → Reader Regex
  | 0 => throw "regular expression is too large"
  | fuel + 1 => do
    let one ← sequence (alternatives fuel) ((← get).rest.length + 1)
    match (← get).rest with
    | '|' :: rest =>
      modify fun s => { s with rest }
      return .either one (← alternatives fuel)
    | _ => return one

/-- The expression that a text spells. -/
def read (text : List Char) : Except String Regex := do
  match ← (alternatives (text.length + 1)).run ⟨text, 0, []⟩ with
  | (r, ⟨[], _, _⟩) => return .soonest r
  | _ => throw "unmatched closing parenthesis"

example : ((read "o+?\\K\\d".toList).toOption.bind fun r =>
    (r.search id [] "foo12".toList).map fun m => m.matched) = some ['1'] := by decide +kernel

end CompileTree.Shell.Utility.Regex.Rich
