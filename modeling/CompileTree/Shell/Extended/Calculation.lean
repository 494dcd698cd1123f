import CompileTree.Shell.Arithmetic

/-! # Calculations

Expressions over whole numbers of 64 bits with variables and elements of arrays. An
expression is read and evaluated in one pass, so that what stands before a fault has
taken effect; where only its end is sought it is read without effect. The value of a
variable is an expression itself.
-/

namespace CompileTree.Shell.Extended.Calculation

open Script (isNameStart isNameChar)

/-- What an expression is made of. -/
inductive Token where
  | finish
  | number
  | name
  | sign (text : String)
  /-- An assignment of what an operation makes of the old value. -/
  | assigns (operation : String)
  /-- A sign that changes the variable behind it by one. -/
  | before (up : Bool)
  /-- A sign that changes the variable before it by one. -/
  | behind (up : Bool)
  deriving DecidableEq, Repr

/-- Which element of an array is meant. -/
inductive Key where
  | index (n : Int64)
  | text (key : String)
  deriving DecidableEq, Repr

/-- A variable or an element of one. -/
structure Target where
  name : String
  key : Option Key
  deriving DecidableEq, Repr

/-- How variables are used, and what a failure is. -/
structure Access (m : Type → Type 1) where
  /-- Whether the elements of an array are known by texts. -/
  isTable (name : String) : m Bool
  /-- The value of a variable; the text is how it is spelled. -/
  read (t : Target) (spelled : String) : m String
  assign (t : Target) (value : String) : m Unit
  /-- Tell that something is wrong in an expression, and at which token. -/
  fail (α : Type) (expression message token : String) : m α

/-- How far an expression has been read. -/
structure Cursor where
  /-- All of the expression. -/
  text : List Char
  rest : List Char
  /-- What is left from the last token on. -/
  last : List Char
  token : Token
  previous : Token
  value : Int64
  target : Option Target
  /-- Whether nothing takes effect. -/
  idle : Bool

/-- Steps of a calculation. -/
abbrev Calc (m : Type → Type 1) := StateT Cursor m

/-- Blanks in an expression. -/
def isGap (c : Char) : Bool := c == ' ' || c == '\t' || c == '\n' || c == '\r'

/-- The signs of one character. -/
def single : List Char :=
  ['=', '>', '<', '+', '-', '*', '/', '%', '!', '(', ')', '&', '|', '^', '~', '?', ':', ',']

/-- Whether an operand is expected behind a token. -/
def wantsOperand : Token → Bool
  | .number | .name => false
  | .sign ")" => true
  | _ => true

/-- The digits of numbers in all bases. -/
def isDigit (c : Char) : Bool := c.isAlphanum || c == '@' || c == '_'

/-- The value of a digit in a base; capitals count as small letters in bases up to 36. -/
def digitIn (base : Nat) (c : Char) : Nat :=
  if c.isDigit then c.toNat - 48
  else if c.isLower then c.toNat - 87
  else if c.isUpper then (if base ≤ 36 then c.toNat - 55 else c.toNat - 29)
  else if c == '@' then 62 else 63

/-- The number that digits of a base spell, or what is wrong. -/
def inBase (base : Nat) (cs : List Char) : Except String Nat :=
  cs.foldlM (fun n c =>
    if digitIn base c < base then .ok (base * n + digitIn base c)
    else .error "value too great for base") 0

/-- The number that a token spells, or what is wrong. -/
def numberOf (cs : List Char) : Except String Nat :=
  match cs with
  | '0' :: x :: rest =>
    if x = 'x' ∨ x = 'X' then
      if rest.contains '#' then .error "invalid number" else inBase 16 rest
    else if (x :: rest).contains '#' then .error "invalid number"
    else inBase 8 (x :: rest)
  | cs =>
    let digits := cs.takeWhile (· ≠ '#')
    match cs.drop digits.length with
    | [] => inBase 10 digits
    | _ :: more => do
      let base ← inBase 10 digits
      if base < 2 ∨ 64 < base then throw "invalid arithmetic base"
      else if !more.head?.any isDigit then throw "invalid integer constant"
      else if more.contains '#' then throw "invalid number"
      else inBase base more

/-- A power; `fuel` bounds the number of bits of the exponent. -/
def power : Nat → Int64 → Nat → Int64
  | 0, _, _ => 1
  | fuel + 1, base, exponent =>
    if exponent = 0 then 1
    else
      let rest := power fuel (base * base) (exponent / 2)
      if exponent % 2 = 1 then base * rest else rest

variable {m : Type → Type 1} [Monad m] (access : Access m)

/-- Tell that something is wrong at the last token. -/
def fail {α : Type} (message : String) : Calc m α := do
  let c ← get
  let shown := c.text.dropWhile fun c => c == ' ' || c == '\t'
  access.fail α (String.ofList shown) message (String.ofList c.last)

/-- The target of a name with a subscript, which is evaluated if it is an expression. -/
def targetOf (evaluate : List Char → m Int64) (name : List Char) (subscript : Option (List Char)) :
    m Target := do
  let name := String.ofList name
  match subscript with
  | none => return ⟨name, none⟩
  | some text =>
    if ← access.isTable name then return ⟨name, some (.text (String.ofList text))⟩
    else return ⟨name, some (.index (← evaluate text))⟩

/-- The text of a subscript up to its bracket, and what follows it; `depth` more are open. -/
def subscript? : Nat → List Char → Option (List Char × List Char)
  | _, [] => none
  | depth, c :: cs =>
    if c = ']' then
      match depth with
      | 0 => some ([], cs)
      | depth + 1 => (subscript? depth cs).map fun (text, rest) => (c :: text, rest)
    else
      (subscript? (if c = '[' then depth + 1 else depth) cs).map fun (text, rest) =>
        (c :: text, rest)

/-- The sign at the start of a text, given the tokens before it, and what follows it. -/
def signAt? (token previous : Token) (c : Char) (rest : List Char) :
    Except String (Option (Token × List Char)) :=
  let found (t : Token) (rest : List Char) : Except String (Option (Token × List Char)) :=
    .ok (some (t, rest))
  let again := rest.head? == some c
  match c, rest with
  | '=', '=' :: r => found (.sign "==") r
  | '!', '=' :: r => found (.sign "!=") r
  | '>', '=' :: r => found (.sign ">=") r
  | '<', '=' :: r => found (.sign "<=") r
  | '<', '<' :: '=' :: r => found (.assigns "<<") r
  | '<', '<' :: r => found (.sign "<<") r
  | '>', '>' :: '=' :: r => found (.assigns ">>") r
  | '>', '>' :: r => found (.sign ">>") r
  | '&', '&' :: r => found (.sign "&&") r
  | '|', '|' :: r => found (.sign "||") r
  | '*', '*' :: r => found (.sign "**") r
  | _, _ =>
    if (c = '-' ∨ c = '+') && again then
      let up := c == '+'
      let r := rest.drop 1
      let isBefore := match previous with
        | .before _ => true
        | _ => false
      if token = .name then found (.behind up) r
      else if token = .number && isBefore then
        .error (String.ofList [c, c] ++ ": assignment requires lvalue")
      else if (r.dropWhile isGap).head?.any isNameStart then found (.before up) r
      else found (.sign (String.singleton c)) rest
    else if rest.head? = some '=' ∧ c ∈ ['*', '/', '%', '+', '-', '&', '^', '|'] then
      found (.assigns (String.singleton c)) (rest.drop 1)
    else if c ∈ single then found (.sign (String.singleton c)) rest
    else .ok none

/-- What follows a name, as far as it tells what is done with the variable: whether a value
    is assigned to it. A character that cannot follow is told of. -/
def followed (rest : List Char) : Option Bool :=
  match rest.dropWhile isGap with
  | [] => some false
  | c :: cs =>
    if isNameStart c || c.isDigit then some false
    else
      match signAt? .name .finish c cs with
      | .ok (some (.sign "=", _)) => some true
      | .ok (some _) => some false
      | _ => none

/-- Read the next token; `evaluate` gives the value of another expression. -/
def advance (evaluate : List Char → m Int64) : Calc m Unit := do
  let cur ← get
  match cur.rest.dropWhile isGap with
  | [] => set { cur with previous := cur.token, token := .finish, rest := [] }
  | c :: cs =>
    set { cur with last := c :: cs, rest := c :: cs }
    if isNameStart c then
      let name := (c :: cs).takeWhile isNameChar
      let rest := (c :: cs).drop name.length
      let (subscript, after) ← match rest with
        | '[' :: inner =>
          match subscript? 0 inner with
          | some (text, after) => pure (some text, after)
          | none => fail access "bad array subscript"
        | rest => pure (none, rest)
      match followed after with
      | none =>
        modify fun cur => { cur with last := after.dropWhile isGap }
        fail access "syntax error: invalid arithmetic operator"
      | some assigned =>
        if cur.idle then
          modify fun cur => { cur with target := none, value := 0 }
        else
          let target ← StateT.lift (targetOf access evaluate name subscript)
          let isChanged := match cur.token with
            | .before _ => true
            | _ => false
          let spelled := String.ofList ((c :: cs).take ((c :: cs).length - after.length))
          let value ←
            if assigned && !isChanged then pure 0
            else
              let text ← access.read target spelled
              if text.toList.all isGap then pure 0 else evaluate text.toList
          modify fun cur => { cur with target := some target, value }
        modify fun c => { c with previous := cur.token, token := .name, rest := after }
    else if c.isDigit then
      let isPart (c : Char) : Bool := isDigit c || c == '#'
      let digits := (c :: cs).takeWhile isPart
      let after := (c :: cs).drop digits.length
      match numberOf digits with
      | .ok n =>
        modify fun c => { c with
          value := Int64.ofNat n, previous := cur.token, token := .number, rest := after }
      | .error message =>
        modify fun c => { c with
          text := c.text.take (c.text.length - after.length), last := digits }
        fail access message
    else
      match signAt? cur.token cur.previous c cs with
      | .ok (some (t, after)) =>
        modify fun c => { c with previous := cur.token, token := t, rest := after }
      | .ok none =>
        fail access (if wantsOperand cur.token then "syntax error: operand expected"
          else "syntax error: invalid arithmetic operator")
      | .error message => fail access message

/-- Note that a value was calculated, to which nothing can be assigned. -/
def calculated : Calc m Unit := modify fun c => { c with previous := .number }

/-- Do something without effect if that is asked for. -/
def idly {α : Type} (idle : Bool) (r : Calc m α) : Calc m α := do
  let before := (← get).idle
  modify fun c => { c with idle := before || idle }
  let a ← r
  modify fun c => { c with idle := before }
  return a

/-- Give a variable a value, unless nothing takes effect. -/
def store (target : Option Target) (n : Int64) : Calc m Unit := do
  match target, (← get).idle with
  | some t, false => access.assign t (toString n.toInt)
  | _, _ => return

variable (evaluate : List Char → m Int64)

/-- A number, a variable that may be changed, or an expression in parentheses. -/
def operand (whole : Calc m Int64) : Calc m Int64 := do
  let cur ← get
  match cur.token with
  | .before up =>
    modify fun c => { c with previous := cur.token }
    advance access evaluate
    let after ← get
    if after.token ≠ .name then
      fail access "identifier expected after pre-increment or pre-decrement"
    let n := if up then after.value + 1 else after.value - 1
    store access after.target n
    modify fun c => { c with token := .number }
    advance access evaluate
    return n
  | .sign "(" =>
    advance access evaluate
    let n ← whole
    if (← get).token ≠ .sign ")" then fail access "missing \x60)'"
    advance access evaluate
    return n
  | .number =>
    advance access evaluate
    return cur.value
  | .name =>
    let r := cur.rest.dropWhile isGap
    match r with
    | c :: cs =>
      match signAt? .name .finish c cs with
      | .ok (some (.behind up, after)) =>
        store access cur.target (if up then cur.value + 1 else cur.value - 1)
        modify fun c => { c with token := .number, previous := .name, last := r, rest := after }
        advance access evaluate
        return cur.value
      | _ =>
        advance access evaluate
        return cur.value
    | [] =>
      advance access evaluate
      return cur.value
  | _ => fail access "syntax error: operand expected"

/-- An operand with signs before it. -/
def signed (whole : Calc m Int64) : Nat → Calc m Int64
  | 0 => fail access "expression recursion level exceeded"
  | fuel + 1 => do
    let apply (f : Int64 → Int64) : Calc m Int64 := do
      advance access evaluate
      let n ← signed whole fuel
      calculated
      return f n
    match (← get).token with
    | .sign "!" => apply fun n => if n = 0 then 1 else 0
    | .sign "~" => apply fun n => ~~~n
    | .sign "-" => apply fun n => -n
    | .sign "+" => apply id
    | _ => operand access evaluate whole

/-- Powers. -/
def powers (whole : Calc m Int64) : Nat → Calc m Int64
  | 0 => fail access "expression recursion level exceeded"
  | fuel + 1 => do
    let base ← signed access evaluate whole (fuel + 1)
    if (← get).token = .sign "**" then
      advance access evaluate
      let exponent ← powers whole fuel
      calculated
      if exponent < 0 then fail access "exponent less than 0"
      return power 64 base exponent.toInt.toNat
    else return base

/-- The result of an operation; nothing is divided by zero. -/
def apply (sign : String) (a b : Int64) : Calc m Int64 := do
  let all := (Arithmetic.Operation.signs).flatten
  match (all.lookup sign).bind fun o => o.result? a b with
  | some n => return n
  | none => if (← get).idle then return a else fail access "division by 0"

/-- Operations of one rank, from the left. -/
def chain (operand : Calc m Int64) (signs : List String) : Nat → Int64 → Calc m Int64
  | 0, a => return a
  | fuel + 1, a => do
    match (← get).token with
    | .sign s =>
      if s ∈ signs then
        let behind := (← get).rest.dropWhile fun c => c == ' ' || c == '\t'
        advance access evaluate
        let b ← operand
        if s = "/" ∨ s = "%" then
          let last := (← get).last
          if b = 0 then modify fun c => { c with last := behind }
          let n ← apply access s a b
          modify fun c => { c with last }
          calculated
          chain operand signs fuel n
        else
          calculated
          chain operand signs fuel (← apply access s a b)
      else return a
    | _ => return a

/-- Operations of the given ranks, the closest first. -/
def operations (operand : Calc m Int64) (ranks : List (List String)) : Calc m Int64 :=
  ranks.foldl (fun inner signs => do
    chain access evaluate inner signs ((← get).rest.length + 2) (← inner)) operand

/-- Conjunctions if `isAll`, else disjunctions; what cannot change the result is without
    effect. -/
def logical (operand : Calc m Int64) (isAll : Bool) : Nat → Int64 → Calc m Int64
  | 0, a => return a
  | fuel + 1, a => do
    if (← get).token = .sign (if isAll then "&&" else "||") then
      let settled := (a = 0) == isAll
      let b ← idly settled do
        advance access evaluate
        operand
      calculated
      let yes := if isAll then a ≠ 0 && b ≠ 0 else a ≠ 0 || b ≠ 0
      logical operand isAll fuel (if yes then 1 else 0)
    else return a

/-- Choices. -/
def choice (whole operand : Calc m Int64) : Nat → Calc m Int64
  | 0 => fail access "expression recursion level exceeded"
  | fuel + 1 => do
    let a ← operand
    if (← get).token = .sign "?" then
      let yes ← idly (a = 0) do
        advance access evaluate
        let t := (← get).token
        if t = .finish || t = .sign ":" then fail access "expression expected"
        whole
      if (← get).token ≠ .sign ":" then
        fail access "\x60:' expected for conditional expression"
      let no ← idly (a ≠ 0) do
        advance access evaluate
        if (← get).token = .finish then fail access "expression expected"
        choice whole operand fuel
      calculated
      return if a = 0 then no else yes
    else return a

/-- Assignments and all that binds closer. -/
def assignment (whole : Calc m Int64) (bound : Nat) : Nat → Calc m Int64
  | 0 => fail access "expression recursion level exceeded"
  | fuel + 1 => do
    let closest := powers access evaluate whole bound
    let ranked := operations access evaluate closest
      [["*", "/", "%"], ["+", "-"], ["<<", ">>"], ["<", "<=", ">", ">="], ["==", "!="], ["&"],
        ["^"], ["|"]]
    let conjunction : Calc m Int64 := do logical access evaluate ranked true bound (← ranked)
    let disjunction : Calc m Int64 := do
      logical access evaluate conjunction false bound (← conjunction)
    let old ← choice access evaluate whole disjunction bound
    let cur ← get
    let operation : Option (Option String) := match cur.token with
      | .sign "=" => some none
      | .assigns s => some (some s)
      | _ => none
    match operation with
    | none => return old
    | some operation =>
      if cur.previous ≠ .name then fail access "attempted assignment to non-variable"
      let target := cur.target
      advance access evaluate
      let given ← assignment whole bound fuel
      let n ← match operation with
        | none => pure given
        | some s => apply access s old given
      store access target n
      modify fun c => { c with target := none }
      return n

/-- Expressions with commas between them; `fuel` bounds how deep parentheses stand in each
    other. -/
def sequence (bound : Nat) : Nat → Calc m Int64
  | 0 => fail access "expression recursion level exceeded"
  | fuel + 1 => do
    let one := assignment access evaluate (sequence bound fuel) bound bound
    let rec more : Nat → Int64 → Calc m Int64
      | 0, n => return n
      | count + 1, n => do
        if (← get).token = .sign "," then
          advance access evaluate
          more count (← one)
        else return n
    more bound (← one)

omit evaluate in
/-- The value of an expression; `depth` bounds how deep the values of variables are
    expressions in turn. -/
def value : Nat → List Char → m Int64
  | 0, text =>
    access.fail Int64 (String.ofList text) "expression recursion level exceeded" (String.ofList text)
  | depth + 1, text =>
    if text.all isGap then return 0
    else do
      let start : Cursor := ⟨text, text, text, .finish, .finish, 0, none, false⟩
      let bound := text.length + 2
      let all : Calc m Int64 := do
        advance access (value depth)
        let n ← sequence access (value depth) bound bound
        if (← get).token ≠ .finish then fail access "syntax error in expression"
        return n
      return (← all.run start).1

/-- How deep the values of variables may be expressions in turn. -/
def depthLimit : Nat := 1024

end CompileTree.Shell.Extended.Calculation
