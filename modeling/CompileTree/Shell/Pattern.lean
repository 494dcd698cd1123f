/-! # Patterns

Patterns for file names and other texts: an asterisk stands for any text, a
question mark for any character and brackets for any character of a set. What is
quoted stands for itself, and so does a bracket that is never closed.
-/

namespace CompileTree.Shell

/-- What a set of characters is made of. -/
inductive Member where
  | range (first last : Char)
  /-- A class of characters, known by its name. -/
  | kind (name : String)
  deriving DecidableEq, Repr

/-- What one part of a pattern stands for. -/
inductive Atom where
  | one (c : Char)
  | any
  | many
  | set (negated : Bool) (members : List Member)
  deriving DecidableEq, Repr

/-- The parts of a pattern. -/
abbrev Pattern := List Atom

/-- Characters with whether they are quoted. -/
abbrev Marked := List (Char × Bool)

namespace Member

/-- The names of the classes of characters. -/
def kinds : List String :=
  ["alnum", "cntrl", "lower", "space", "alpha", "digit", "print", "upper", "blank", "graph",
    "punct", "xdigit"]

/-- Whether a character is in the class of a name. -/
def isOfKind (c : Char) (name : String) : Bool :=
  let visible := '!' ≤ c ∧ c ≤ '~'
  match name with
  | "alnum" => c.isAlphanum
  | "alpha" => c.isAlpha
  | "blank" => c == ' ' || c == '\t'
  | "cntrl" => c < ' ' || c == '\x7f'
  | "digit" => c.isDigit
  | "graph" => visible
  | "lower" => c.isLower
  | "print" => visible || c == ' '
  | "punct" => visible && !c.isAlphanum
  | "space" => c == ' ' || ('\t' ≤ c && c ≤ '\r')
  | "upper" => c.isUpper
  | "xdigit" => c.isDigit || ('a' ≤ c && c ≤ 'f') || ('A' ≤ c && c ≤ 'F')
  | _ => false

/-- Whether a character is among those that a member stands for. -/
def has (m : Member) (c : Char) : Bool :=
  match m with
  | .range first last => first ≤ c && c ≤ last
  | .kind name => isOfKind c name

end Member

namespace Pattern

/-- The name of a class at the start of a pattern, behind its bracket, and what
    follows the class. -/
def kind? (cs : Marked) : Option (String × Marked) :=
  Member.kinds.findSome? fun name =>
    ((':' :: name.toList ++ [':', ']']).map (·, false)).isPrefixOf? cs |>.map (name, ·)

/-- The members of a set up to its closing bracket, and what follows it. -/
def members? : Nat → Bool → Marked → Option (List Member × Marked)
  | 0, _, _ => none
  | _ + 1, _, [] => none
  | fuel + 1, first, (c, quoted) :: cs =>
    if c = ']' ∧ !quoted ∧ !first then some ([], cs)
    else
      let class? := if c = '[' ∧ !quoted then kind? cs else none
      let (m, rest) := match class?, cs with
        | some (name, rest), _ => (Member.kind name, rest)
        | none, ('-', false) :: (d, q) :: rest =>
          if d = ']' ∧ !q then (.range c c, cs) else (.range c d, rest)
        | none, rest => (.range c c, rest)
      (members? fuel false rest).map fun (ms, rest) => (m :: ms, rest)

/-- The set at the start of a pattern, behind its bracket, and what follows it. -/
def set? (cs : Marked) : Option (Atom × Marked) :=
  let (negated, cs) := match cs with
    | ('!', false) :: rest => (true, rest)
    | rest => (false, rest)
  (members? (cs.length + 1) true cs).map fun (ms, rest) => (.set negated ms, rest)

/-- The pattern that characters spell; `fuel` bounds their number. -/
def ofMarkedWithin : Nat → Marked → Pattern
  | 0, _ => []
  | _ + 1, [] => []
  | fuel + 1, (c, quoted) :: cs =>
    if quoted then .one c :: ofMarkedWithin fuel cs
    else if c = '*' then .many :: ofMarkedWithin fuel cs
    else if c = '?' then .any :: ofMarkedWithin fuel cs
    else if c = '[' then
      match set? cs with
      | some (s, rest) => s :: ofMarkedWithin fuel rest
      | none => .one c :: ofMarkedWithin fuel cs
    else .one c :: ofMarkedWithin fuel cs

/-- The pattern that characters spell. -/
def ofMarked (cs : Marked) : Pattern := ofMarkedWithin (cs.length + 1) cs

/-- Whether a pattern stands for a text. -/
def accepts : Pattern → List Char → Bool
  | [], cs => cs.isEmpty
  | .one c :: rest, d :: ds => c == d && accepts rest ds
  | .any :: rest, _ :: ds => accepts rest ds
  | .set negated members :: rest, d :: ds =>
    (members.any (·.has d) != negated) && accepts rest ds
  | .many :: rest, [] => accepts rest []
  | .many :: rest, d :: ds => accepts rest (d :: ds) || accepts (.many :: rest) ds
  | .one _ :: _, [] | .any :: _, [] | .set .. :: _, [] => false
termination_by p cs => (p.length, cs.length)

/-- Whether a pattern may stand for more than one text. -/
def isOpen (p : Pattern) : Bool :=
  p.any fun
    | .one _ => false
    | _ => true

/-- The text of a pattern that stands for one text. -/
def literal (p : Pattern) : List Char :=
  p.filterMap fun
    | .one c => some c
    | _ => none

/-- How many characters a pattern takes off the start of a text. -/
def startLength? (p : Pattern) (longest : Bool) (cs : List Char) : Option Nat :=
  let lengths := List.range (cs.length + 1)
  (if longest then lengths.reverse else lengths).find? fun n => p.accepts (cs.take n)

/-- How many characters are left when a pattern takes the end of a text off. -/
def restLength? (p : Pattern) (longest : Bool) (cs : List Char) : Option Nat :=
  let lengths := List.range (cs.length + 1)
  (if longest then lengths else lengths.reverse).find? fun n => p.accepts (cs.drop n)

/-- Any text. -/
theorem accepts_many (cs : List Char) : accepts [.many] cs = true := by
  induction cs with
  | nil => simp [accepts]
  | cons c cs ih => simp [accepts, ih]

end Pattern

end CompileTree.Shell
