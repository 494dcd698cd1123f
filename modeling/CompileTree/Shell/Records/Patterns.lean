import CompileTree.Shell.Records.Tokens
import CompileTree.Shell.Utility.Regex

/-! # Patterns in records

The spelling of regular expressions in programs that treat records. Braces stand for
themselves, and a point matches line ends, too.
-/

namespace CompileTree.Shell.Records

open Utility (Regex)

namespace PatternSpelling

/-- The character at the start of a text, which may be spelled with a backslash. -/
def character (cs : List Char) : Char × List Char :=
  match cs with
  | '\\' :: c :: rest =>
    match escaped (c :: rest) with
    | ([d], rest) => (d, rest)
    | _ => (c, rest)
  | c :: rest => (c, rest)
  | [] => ('\\', [])

/-- What is told of a set that does not end or has an unknown class. -/
def badSet : String := "bad class -- [], [^] or ["

/-- The members of a set up to its closing bracket; `fuel` bounds their number. -/
def members : Nat → Bool → List Char → Except String (List Member × List Char)
  | 0, _, _ | _, _, [] => .error badSet
  | fuel + 1, first, cs => do
    if cs.head? = some ']' && !first then return ([], cs.drop 1)
    let (m, rest) ← match cs with
      | '[' :: ':' :: more =>
        match Regex.Dialect.symbol ':' more with
        | some (name, rest) =>
          if String.ofList name ∈ Member.kinds then pure (Member.kind (String.ofList name), rest)
          else throw badSet
        | none => pure (Member.range '[' '[', ':' :: more)
      | cs =>
        let (low, rest) := character cs
        match rest with
        | '-' :: d :: more =>
          if d = ']' then pure (Member.range low low, rest)
          else
            let (high, rest) := character (d :: more)
            pure (if low ≤ high then Member.range low high else Member.range high low, rest)
        | rest => pure (Member.range low low, rest)
    let (ms, rest) ← members fuel false rest
    return (m :: ms, rest)

/-- The repetitions behind an expression. -/
def repeated (r : Regex) : List Char → Regex × List Char
  | '*' :: rest => repeated (.repeated r 0 none) rest
  | '+' :: rest => repeated (.repeated r 1 none) rest
  | '?' :: rest => repeated (.repeated r 0 (some 1)) rest
  | rest => (r, rest)

/-- What is told where an expression is missing. -/
def missing : String := "missing operand"

mutual

/-- A single expression. -/
def atom : Nat → Bool → List Char → Except String (Regex × List Char)
  | 0, _, _ => .error missing
  | fuel + 1, nested, cs =>
    match cs with
    | '(' :: rest => do
      if rest.head? = some ')' then throw missing
      match ← alternatives fuel true rest with
      | (r, ')' :: rest) => return (r, rest)
      | _ => throw "missing ')'"
    | '.' :: rest => return (.any, rest)
    | '^' :: rest => return (.edge .textStart, rest)
    | '$' :: rest => return (.edge .textFinish, rest)
    | '[' :: rest => do
      let (negated, rest) := match rest with
        | '^' :: rest => (true, rest)
        | rest => (false, rest)
      let (ms, rest) ← members (rest.length + 1) true rest
      return (.set negated ms, rest)
    | c :: rest =>
      if c ∈ ['*', '+', '?', '|'] ∨ (c = ')' ∧ nested) then throw missing
      else
        let (c, rest) := character (c :: rest)
        return (.one c, rest)
    | [] => throw missing

/-- Expressions that follow each other. -/
def sequence : Nat → Bool → List Char → Except String (Regex × List Char)
  | 0, _, _ => .error missing
  | fuel + 1, nested, cs => do
    let (r, rest) ← atom fuel nested cs
    let (r, rest) := repeated r rest
    match rest with
    | [] | '|' :: _ => return (r, rest)
    | ')' :: _ =>
      if nested then return (r, rest)
      let (more, rest) ← sequence fuel nested rest
      return (.both r more, rest)
    | _ =>
      let (more, rest) ← sequence fuel nested rest
      return (.both r more, rest)

/-- Alternatives. The first one in parentheses may be empty. -/
def alternatives : Nat → Bool → List Char → Except String (Regex × List Char)
  | 0, _, _ => .error missing
  | fuel + 1, nested, cs => do
    let (r, rest) ← match nested, cs with
      | true, '|' :: _ => pure (Regex.nothing, cs)
      | _, _ => sequence fuel nested cs
    match rest with
    | '|' :: rest =>
      let (other, rest) ← alternatives fuel nested rest
      return (.either r other, rest)
    | rest => return (r, rest)

end

/-- The expression that a text spells. -/
def read (cs : List Char) : Except String Regex := do
  if cs.isEmpty then return .nothing
  let (r, _) ← alternatives (3 * cs.length + 3) false cs
  return r

end PatternSpelling

/-- The expression of a text in which no character has a special meaning. -/
def literalPattern (cs : List Char) : Regex := cs.foldr (fun c r => .both (.one c) r) .nothing

end CompileTree.Shell.Records
