import CompileTree.Shell.Script

/-! # Arithmetic

Expressions over whole numbers of 64 bits, which wrap around. Variables may be
read and assigned, and only the part of a choice that counts is evaluated.
-/

namespace CompileTree.Shell.Arithmetic

/-- What an expression is made of. -/
inductive Token where
  | number (n : Int64)
  | name (text : String)
  | sign (text : String)
  | bad
  deriving DecidableEq, Repr

/-- Operations on two numbers. -/
inductive Operation where
  | times | divided | remainder
  | plus | minus
  | shiftLeft | shiftRight
  | less | atMost | greater | atLeast
  | equal | different
  | bitAnd | bitXor | bitOr
  deriving DecidableEq, Repr

/-- Expressions. -/
inductive Expr where
  | number (n : Int64)
  | name (text : String)
  | negative (e : Expr)
  | inverse (e : Expr)
  | complement (e : Expr)
  | operation (o : Operation) (a b : Expr)
  | both (a b : Expr)
  | either (a b : Expr)
  | choice (condition yes no : Expr)
  /-- An assignment of a value or of what an operation makes of the old one. -/
  | assign (name : String) (o : Option Operation) (e : Expr)
  deriving Repr

namespace Operation

/-- The operations by their signs, those that bind closest first. -/
def signs : List (List (String × Operation)) := [
  [("*", .times), ("/", .divided), ("%", .remainder)],
  [("+", .plus), ("-", .minus)],
  [("<<", .shiftLeft), (">>", .shiftRight)],
  [("<", .less), ("<=", .atMost), (">", .greater), (">=", .atLeast)],
  [("==", .equal), ("!=", .different)],
  [("&", .bitAnd)], [("^", .bitXor)], [("|", .bitOr)]]

/-- The operations that may come with an assignment. -/
def assigning : List (String × Operation) := [
  ("*=", .times), ("/=", .divided), ("%=", .remainder), ("+=", .plus), ("-=", .minus),
  ("<<=", .shiftLeft), (">>=", .shiftRight), ("&=", .bitAnd), ("^=", .bitXor), ("|=", .bitOr)]

/-- The result of an operation; nothing is divided by zero. -/
def result? (o : Operation) (a b : Int64) : Option Int64 :=
  let answer (yes : Bool) : Option Int64 := some (if yes then 1 else 0)
  match o with
  | .times => some (a * b)
  | .divided => if b = 0 then none else some (a / b)
  | .remainder => if b = 0 then none else some (a % b)
  | .plus => some (a + b)
  | .minus => some (a - b)
  | .shiftLeft => some (a <<< b)
  | .shiftRight => some (a >>> b)
  | .less => answer (a < b)
  | .atMost => answer (a ≤ b)
  | .greater => answer (a > b)
  | .atLeast => answer (a ≥ b)
  | .equal => answer (a == b)
  | .different => answer (a != b)
  | .bitAnd => some (a &&& b)
  | .bitXor => some (a ^^^ b)
  | .bitOr => some (a ||| b)

end Operation

/-- The closest number that has 64 bits. -/
def clamp (n : Int) : Int64 :=
  Int64.ofIntClamp n

/-- The value of a digit in any base. -/
def digit (c : Char) : Nat :=
  if c.isDigit then c.toNat - 48
  else if c.isLower then c.toNat - 87
  else if c.isUpper then c.toNat - 55
  else 99

/-- The digits of a base at the start of a text, as a number, and what follows. -/
def digits (base : Nat) (cs : List Char) : Nat × List Char :=
  let isDigit (c : Char) : Bool := digit c < base
  ((cs.takeWhile isDigit).foldl (fun n c => base * n + digit c) 0, cs.dropWhile isDigit)

/-- The number at the start of a text that starts with a digit: in base sixteen behind
    `0x`, in base eight behind another zero. -/
def natural (cs : List Char) : Nat × List Char :=
  match cs with
  | '0' :: x :: d :: rest =>
    if (x = 'x' ∨ x = 'X') ∧ digit d < 16 then digits 16 (d :: rest) else digits 8 cs
  | '0' :: _ => digits 8 cs
  | _ => digits 10 cs

/-- The signs of more than one character, the longest first. -/
def longSigns : List String :=
  ["<<=", ">>=", "<<", ">>", "<=", ">=", "==", "!=", "&&", "||", "*=", "/=", "%=", "+=", "-=",
    "&=", "^=", "|="]

/-- The sign at the start of a text, and what follows it. -/
def sign? (cs : List Char) : Option (String × List Char) :=
  let long := longSigns.findSome? fun s => (s.toList.isPrefixOf? cs).map (s, ·)
  match long, cs with
  | some found, _ => some found
  | none, c :: rest =>
    if c ∈ ['<', '>', '=', '!', '&', '|', '*', '/', '%', '+', '-', '^', '~', '(', ')', '?', ':'] then
      some (String.singleton c, rest)
    else none
  | none, [] => none

/-- The tokens of a text; `fuel` bounds their number. -/
def tokensWithin : Nat → List Char → List Token
  | 0, _ => []
  | _ + 1, [] => []
  | fuel + 1, c :: cs =>
    if c = ' ' ∨ c = '\t' ∨ c = '\n' then tokensWithin fuel cs
    else if c.isDigit then
      let (n, rest) := natural (c :: cs)
      .number (clamp n) :: tokensWithin fuel rest
    else if Script.isNameStart c then
      .name (String.ofList ((c :: cs).takeWhile Script.isNameChar)) ::
        tokensWithin fuel ((c :: cs).dropWhile Script.isNameChar)
    else
      match sign? (c :: cs) with
      | some (s, rest) => .sign s :: tokensWithin fuel rest
      | none => [.bad]

/-- The tokens of a text. -/
def tokens (cs : List Char) : List Token := tokensWithin (cs.length + 1) cs

/-- Steps in which tokens are read; a failure tells what was expected. -/
abbrev Reader := StateT (List Token) (Except String)

namespace Reader

/-- Pass over a sign if it comes next, and tell. -/
def takes (text : String) : Reader Bool := do
  match ← get with
  | .sign s :: rest =>
    if s = text then
      set rest
      return true
    else return false
  | _ => return false

/-- Pass over the sign of one of the given operations if it comes next. -/
def operation? (among : List (String × Operation)) : Reader (Option Operation) := do
  match ← get with
  | .sign s :: rest =>
    match among.lookup s with
    | some o =>
      set rest
      return some o
    | none => return none
  | _ => return none

/-- A number, a variable or an expression in parentheses, with signs before it. -/
def primary (whole : Reader Expr) : Nat → Reader Expr
  | 0 => throw "expecting primary"
  | fuel + 1 => do
    match ← get with
    | .number n :: rest =>
      set rest
      return .number n
    | .name text :: rest =>
      set rest
      return .name text
    | .sign s :: rest =>
      if s = "(" then
        set rest
        let e ← whole
        if ← takes ")" then return e else throw "expecting ')'"
      else if s = "+" then
        set rest
        primary whole fuel
      else if s = "-" then
        set rest
        return .negative (← primary whole fuel)
      else if s = "!" then
        set rest
        return .inverse (← primary whole fuel)
      else if s = "~" then
        set rest
        return .complement (← primary whole fuel)
      else throw "expecting primary"
    | _ => throw "expecting primary"

/-- Operations of one rank, from the left. -/
def chain (operand : Reader Expr) (among : List (String × Operation)) : Nat → Expr → Reader Expr
  | 0, a => return a
  | fuel + 1, a => do
    match ← operation? among with
    | some o => chain operand among fuel (.operation o a (← operand))
    | none => return a

/-- Operations of the given ranks, the closest first. -/
def operations (operand : Reader Expr) (ranks : List (List (String × Operation))) : Reader Expr :=
  ranks.foldl (fun inner among => do chain inner among ((← get).length + 1) (← inner)) operand

/-- Conjunctions. -/
def conjunction (operand : Reader Expr) : Nat → Reader Expr
  | 0 => operand
  | fuel + 1 => do
    let a ← operand
    if ← takes "&&" then return .both a (← conjunction operand fuel) else return a

/-- Disjunctions. -/
def disjunction (operand : Reader Expr) : Nat → Reader Expr
  | 0 => operand
  | fuel + 1 => do
    let a ← operand
    if ← takes "||" then return .either a (← disjunction operand fuel) else return a

/-- Choices. -/
def choice (whole operand : Reader Expr) : Nat → Reader Expr
  | 0 => operand
  | fuel + 1 => do
    let a ← operand
    if ← takes "?" then
      let yes ← whole
      if ← takes ":" then return .choice a yes (← choice whole operand fuel)
      else throw "expecting ':'"
    else return a

/-- Assignments and all that binds closer. -/
def expression : Nat → Reader Expr
  | 0 => throw "expecting primary"
  | fuel + 1 => do
    let all := [("=", none)] ++ Operation.assigning.map fun (s, o) => (s, some o)
    match ← get with
    | .name text :: .sign s :: rest =>
      match all.lookup s with
      | some o =>
        set rest
        return .assign text o (← expression fuel)
      | none => other fuel
    | _ => other fuel
where
  other (fuel : Nat) : Reader Expr := do
    let whole := expression fuel
    let operand := operations (primary whole fuel) Operation.signs
    choice whole (disjunction (conjunction operand fuel) fuel) fuel

end Reader

/-- The expression that a text spells. -/
def ofText (cs : List Char) : Except String Expr := do
  let all := tokens cs
  match ← (Reader.expression (all.length + 1)).run all with
  | (e, []) => return e
  | (_, _) => throw "expecting EOF"

/-- The number that the value of a variable spells; nothing counts as zero. -/
def ofValue? (text : String) : Option Int64 :=
  let isGap (c : Char) : Bool := c == ' ' || ('\t' ≤ c && c ≤ '\r')
  let cs := text.toList.dropWhile isGap
  let (sign, cs) := match cs with
    | '-' :: rest => ((-1 : Int), rest)
    | '+' :: rest => (1, rest)
    | rest => (1, rest)
  match cs with
  | [] => if sign = 1 then some 0 else none
  | c :: _ =>
    if c.isDigit then
      let (n, rest) := natural cs
      if rest.all isGap then some (clamp (sign * n)) else none
    else none

/-- How variables are read and assigned, and what a failure is. -/
structure Access.{u} (m : Type → Type u) where
  read (name : String) : m Int64
  assign (name : String) (n : Int64) : m Unit
  divisionByZero : m Int64

/-- The value of an expression. -/
def Expr.value.{u} {m : Type → Type u} [Monad m] (access : Access m) : Expr → m Int64
  | .number n => return n
  | .name text => access.read text
  | .negative e => return -(← e.value access)
  | .inverse e => return if (← e.value access) = 0 then 1 else 0
  | .complement e => return ~~~(← e.value access)
  | .operation o a b => do
    let x ← a.value access
    let y ← b.value access
    match o.result? x y with
    | some n => return n
    | none => access.divisionByZero
  | .both a b => do
    if (← a.value access) = 0 then return 0
    return if (← b.value access) = 0 then 0 else 1
  | .either a b => do
    if (← a.value access) ≠ 0 then return 1
    return if (← b.value access) = 0 then 0 else 1
  | .choice c a b => do
    if (← c.value access) = 0 then b.value access else a.value access
  | .assign target o e => do
    let y ← e.value access
    let n ← match o with
      | none => pure y
      | some o =>
        match o.result? (← access.read target) y with
        | some n => pure n
        | none => access.divisionByZero
    access.assign target n
    return n

end CompileTree.Shell.Arithmetic
