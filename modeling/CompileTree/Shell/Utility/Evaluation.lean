import CompileTree.Shell.Utility.Options
import CompileTree.Shell.Utility.Regex

/-! # Evaluating expressions

Expressions whose operators and operands are arguments: numbers of any size, texts and
questions about them. What cannot change the result is read, but not evaluated.
-/

namespace CompileTree.Shell.Utility

open Files

namespace Evaluation

/-- Steps in which the words of an expression are read: those that are left, with the last
    one that was read. -/
abbrev Steps := StateT (List String × String) (Except String)

/-- The next word, which has to be there. -/
def next : Steps String := do
  match ← get with
  | (w :: rest, _) =>
    set (rest, w)
    return w
  | ([], last) => throw ("syntax error: missing argument after " ++ marked last)

/-- Read the next word if it is one of the given ones. -/
def oneOf? (among : List String) : Steps (Option String) := do
  match ← get with
  | (w :: rest, _) =>
    if w ∈ among then
      set (rest, w)
      return some w
    else return none
  | ([], _) => return none

/-- The whole number that a word spells. -/
def integer? (w : String) : Option Int :=
  match w.toList with
  | '-' :: ds => (number? (String.ofList ds)).map fun n => -Int.ofNat n
  | _ => (number? w).map Int.ofNat

/-- The whole number that a word has to be. -/
def integer (w : String) : Steps Int :=
  match integer? w with
  | some n => return n
  | none => throw "non-integer argument"

/-- Whether a value counts as false. -/
def isNull (w : String) : Bool := w == "" || integer? w == some 0

/-- What a pattern makes of a text: what its first group has matched, or else how much of
    the start of the text it has. -/
def matched (a b : String) : Steps String :=
  match Regex.Dialect.valuing.read ('^' :: b.toList) with
  | .error text => throw text
  | .ok (r, groups) =>
    match r.search id [] a.toList with
    | none => return if groups = 0 then "0" else ""
    | some m =>
      if groups = 0 then return toString m.matched.length
      else return String.ofList ((m.groups.lookup 1).getD [])

/-- What an operator makes of two values. -/
def apply (operator a b : String) : Steps String := do
  match operator with
  | "+" => return toString ((← integer a) + (← integer b))
  | "-" => return toString ((← integer a) - (← integer b))
  | "*" => return toString ((← integer a) * (← integer b))
  | "/" | "%" =>
    let x ← integer a
    let y ← integer b
    if y = 0 then throw "division by zero"
    return toString (if operator = "/" then x.tdiv y else x.tmod y)
  | ":" => matched a b
  | operator =>
    let order : Ordering := match integer? a, integer? b with
      | some x, some y => compare x y
      | _, _ => compare a b
    let yes : Bool := match operator with
      | "<" => order == .lt
      | "<=" => order != .gt
      | ">" => order == .gt
      | ">=" => order != .lt
      | "!=" => order != .eq
      | _ => order == .eq
    return if yes then "1" else "0"

/-- Operators by rank, those that bind closest first. -/
def ranks : List (List String) :=
  [[":"], ["*", "/", "%"], ["+", "-"], ["<", "<=", "=", "==", "!=", ">=", ">"]]

/-- Operators of one rank, from the left; `live` is whether the value counts. -/
def chain (operand : Steps String) (among : List String) (live : Bool) : Nat → String → Steps String
  | 0, a => return a
  | fuel + 1, a => do
    match ← oneOf? among with
    | some o =>
      let b ← operand
      let v ← if live then apply o a b else pure a
      chain operand among live fuel v
    | none => return a

/-- A conjunction or a disjunction of operands, which know whether they count. -/
def linked (operand : Bool → Steps String) (conjunction live : Bool) : Nat → String → Steps String
  | 0, a => return a
  | fuel + 1, a => do
    match ← oneOf? [if conjunction then "&" else "|"] with
    | none => return a
    | some _ =>
      let b ← operand (live && (isNull a != conjunction))
      let v := if conjunction then (if isNull a || isNull b then "0" else a)
        else if !isNull a then a
        else if isNull b then "0" else b
      linked operand conjunction live fuel v

/-- A question about words, an expression in parentheses or a word; `fuel` bounds how many
    questions stand in each other. -/
def primary (whole : Steps String) : Nat → Steps String
  | 0 => throw "syntax error"
  | fuel + 1 => do
    match ← oneOf? ["+", "length", "match", "index", "substr"] with
    | some "+" => next
    | some "length" => return toString (← primary whole fuel).length
    | some "match" =>
      let a ← primary whole fuel
      let b ← primary whole fuel
      matched a b
    | some "index" =>
      let a ← primary whole fuel
      let b ← primary whole fuel
      let i := a.toList.findIdx fun c => b.toList.contains c
      return toString (if i < a.length then i + 1 else 0)
    | some _ =>
      let a ← primary whole fuel
      let start := integer? (← primary whole fuel)
      let count := integer? (← primary whole fuel)
      match start, count with
      | some start, some count =>
        return if start ≤ 0 || count ≤ 0 then ""
          else String.ofList ((a.toList.drop (start.toNat - 1)).take count.toNat)
      | _, _ => return ""
    | none =>
      match ← next with
      | "(" =>
        let v ← whole
        match ← get with
        | (")" :: rest, _) =>
          set (rest, ")")
          return v
        | ([], last) => throw ("syntax error: expecting ')' after " ++ marked last)
        | (w :: _, _) => throw ("syntax error: expecting ')' instead of " ++ marked w)
      | ")" => throw "syntax error: unexpected ')'"
      | w => return w

/-- An expression; `fuel` bounds how deep parentheses stand in each other. -/
def whole (bound : Nat) : Nat → Bool → Steps String
  | 0, _ => throw "syntax error"
  | fuel + 1, live =>
    let comparison (live : Bool) : Steps String :=
      ranks.foldl (fun inner among => do chain inner among live bound (← inner))
        (primary (whole bound fuel live) bound)
    let conjunction (live : Bool) : Steps String := do
      linked comparison true live bound (← comparison live)
    do linked conjunction false live bound (← conjunction live)

end Evaluation

/-- Evaluate an expression. -/
def expr : Program := fun p arguments => do
  let name := arguments.headD ""
  let words := match arguments.drop 1 with
    | "--" :: rest => rest
    | rest => rest
  match words with
  | [] => misuse p name "missing operand" 2
  | words =>
    let bound := words.length + 2
    match (Evaluation.whole bound bound true).run (words, "") with
    | .ok (v, [], _) =>
      p.say (v ++ "\n")
      return if Evaluation.isNull v then 1 else 0
    | .ok (_, w :: _, _) =>
      complain p name ("syntax error: unexpected argument " ++ marked w)
      return 2
    | .error text =>
      complain p name text
      return 2

end CompileTree.Shell.Utility
