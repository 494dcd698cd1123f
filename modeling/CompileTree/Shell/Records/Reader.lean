import CompileTree.Shell.Records.Patterns
import CompileTree.Shell.Records.Syntax
import CompileTree.Shell.Records.Value

/-! # Reading programs that treat records

The tokens of a program are read as rules and functions. Where a statement is wrong,
reading goes on behind it, so that more than one message can come of a program.
-/

namespace CompileTree.Shell.Records

open Utility (Regex)

/-- What a name stands for. -/
inductive NameKind where
  | function
  | variable_
  | array
  deriving DecidableEq, Repr

/-- What was read of a program. -/
structure Reading where
  tokens : List PlacedToken
  /-- What is wrong, the last one first. -/
  faults : List String
  /-- Whether nothing is read any more. -/
  isFatal : Bool
  /-- Whether a sign behind an expression tells where output goes. -/
  inPrint : Bool
  /-- How many parentheses, braces and loops are open. -/
  parentheses : Nat
  braces : Nat
  loops : Nat
  /-- Whether what is read is done before or behind all records. -/
  isEdge : Bool
  kinds : List (String × NameKind)
  /-- The parameters of the function that is read. -/
  parameters : Option (List (String × Option NameKind))
  /-- How many tokens were left behind the last place that was read. -/
  placeEnd : Nat
  ranges : Nat
  /-- The functions that were called, with the numbers of arguments, the last one first. -/
  calls : List (String × Nat × String)
  rules : List Rule
  functions : List (String × Definition)

/-- Steps in which a program is read. What is wrong is noted in what was read. -/
abbrev Reader := ExceptT Unit (StateM Reading)

namespace Reader

/-- The token that stands at the front, in its place. -/
def front : Reader PlacedToken := do
  return (← get).tokens.headD ⟨.finish, "", 0, []⟩

/-- The token that stands at the front. -/
def token : Reader Token := return (← front).token

/-- Note what is wrong. -/
def note (text : String) : Reader Unit :=
  modify fun s => { s with faults := text :: s.faults }

/-- Note what was wrong before the token at the front. -/
def noteBefore : Reader Unit := do
  modify fun s => { s with faults := (s.tokens.head?.elim [] (·.faults)).reverse ++ s.faults }

/-- Go on to the next token. -/
def skip : Reader Unit := do
  let t ← token
  modify fun s =>
    let count (n : Nat) (opening closing : String) : Nat :=
      if t = .sign opening then n + 1 else if t = .sign closing then n - 1 else n
    { s with
      tokens := s.tokens.drop 1
      parentheses := count s.parentheses "(" ")"
      braces := count s.braces "\x7b" "\x7d" }
  noteBefore

/-- Note what is wrong at the token at the front. -/
def complain (text : String) : Reader Unit := do
  let t ← front
  note (t.file ++ "line " ++ toString t.line ++ ": " ++ text)

/-- Tell that the token at the front cannot stand there. -/
def refuse {α : Type} : Reader α := do
  let t ← front
  let s ← get
  match t.token with
  | .stray c => note (toString t.line ++ ": unexpected character '" ++ String.singleton c ++ "'")
  | .finish =>
    complain (if s.braces = 0 then "syntax error at or near end of file"
      else "missing \x7d near end of file")
  | found =>
    let ends := found == .lineEnd || found == .sign "\x7d;" || found == .sign ";"
    if ends && s.parentheses ≠ 0 then complain ("missing ) near " ++ found.shown)
    else complain ("syntax error at or near " ++ found.shown)
  throw ()

/-- Tell what is wrong, and read nothing any more. -/
def stop {α : Type} (text : String) : Reader α := do
  complain text
  modify fun s => { s with isFatal := true }
  throw ()

/-- Whether a sign stands at the front. -/
def isAt (s : String) : Reader Bool := return (← token) == .sign s

/-- Go on behind a sign if it stands at the front. -/
def taken (s : String) : Reader Bool := do
  if ← isAt s then
    skip
    return true
  else return false

/-- Go on behind a sign that has to stand at the front. -/
def expect (s : String) : Reader Unit := do
  if !(← taken s) then refuse

/-- Go on behind line ends. -/
def skipLineEnds : Reader Unit := do
  if (← token) == .lineEnd then skip

/-- The function that a word stands for. -/
def functionOf? (w : String) : Option Function :=
  [("length", Function.length), ("substr", .substr), ("index", .index), ("split", .split),
    ("match", .match_), ("sub", .sub), ("gsub", .gsub), ("sprintf", .sprintf),
    ("tolower", .toLower), ("toupper", .toUpper), ("sin", .sin), ("cos", .cos),
    ("atan2", .atan2), ("exp", .exp), ("log", .log), ("sqrt", .sqrt), ("int", .int),
    ("rand", .rand), ("srand", .srand), ("system", .system), ("close", .close),
    ("fflush", .flush), ("systime", .now), ("strftime", .formatTime),
    ("mktime", .makeTime)].lookup w

/-- The least and the largest number of arguments of a function. -/
def counts : Function → Nat × Nat
  | .length | .srand | .flush => (0, 1)
  | .rand | .now => (0, 0)
  | .index | .atan2 | .match_ => (2, 2)
  | .substr | .split | .sub | .gsub => (2, 3)
  | .sprintf => (1, 255)
  | .formatTime => (0, 3)
  | _ => (1, 1)

/-- What a name stands for, if that is known. -/
def kindOf? (n : String) : Reader (Option NameKind) := do
  let s ← get
  match s.parameters.bind (·.lookup n) with
  | some kind => return kind
  | none => return s.kinds.lookup n

/-- A kind in messages. -/
def described (isParameter : Bool) (kind : NameKind) (n : String) : String :=
  let kind := match kind with
    | .function => "function"
    | .variable_ => "variable"
    | .array => "array"
  (if isParameter then "local " else "") ++ kind ++ " " ++ n

/-- Use a name for something, which it has to stand for from then on. -/
def useAs (kind : NameKind) (n : String) : Reader Unit := do
  let s ← get
  let isParameter := (s.parameters.bind (·.lookup n)).isSome
  match ← kindOf? n with
  | some known =>
    if known ≠ kind then
      complain ("illegal reference to " ++ described isParameter known n)
      throw ()
  | none =>
    if isParameter then
      let known := s.parameters.map fun ps =>
        ps.map fun p => if p.1 == n then (n, some kind) else p
      modify fun s => { s with parameters := known }
    else modify fun s => { s with kinds := (n, kind) :: s.kinds }

/-- Let the place that was just read be known as such. -/
def endPlace (p : Place) : Reader Expression := do
  modify fun s => { s with placeEnd := s.tokens.length }
  return .value p

/-- Whether an expression that was just read is a place and nothing else. -/
def placeOf? (e : Expression) : Reader (Option Place) := do
  let s ← get
  match e with
  | .value p => return if s.placeEnd = s.tokens.length then some p else none
  | _ => return none

/-- The operation that an assignment sign stands for; none for a plain assignment. -/
def assignment? (t : Token) : Option (Option Operation) :=
  match t with
  | .sign "=" => some none
  | .sign "+=" => some (some .add)
  | .sign "-=" => some (some .subtract)
  | .sign "*=" => some (some .multiply)
  | .sign "/=" => some (some .divide)
  | .sign "%=" => some (some .remainder)
  | .sign "^=" => some (some .power)
  | _ => none

/-- The comparison that a sign stands for. -/
def comparison? (t : Token) : Option Comparison :=
  match t with
  | .sign "<" => some .less
  | .sign "<=" => some .atMost
  | .sign "==" => some .equal
  | .sign "!=" => some .unequal
  | .sign ">" => some .greater
  | .sign ">=" => some .atLeast
  | _ => none

/-- Whether a token can start what is joined to something before it. -/
def startsOperand : Token → Bool
  | .number _ | .text _ | .pattern _ | .name .. => true
  | .word w => w = "getline" ∨ (functionOf? w).isSome
  | .sign s => s ∈ ["(", "!", "$", "++", "--"]
  | _ => false

/-- Whether signs at the front tell where output goes. -/
def isRedirecting : Reader Bool := do
  let s ← get
  return s.inPrint && s.parentheses = 0

/-- The expression of a pattern that the program spells. -/
def patternOf (source : String) : Reader Regex := do
  match PatternSpelling.read source.toList with
  | .ok r => return r
  | .error text =>
    stop ("regular expression compile failed (" ++ text ++ ")\n" ++ source)

/-- The name at the front, which has to be there. -/
def name : Reader String := do
  match ← token with
  | .name n _ =>
    skip
    return n
  | _ => refuse

mutual

/-- An expression whose operators bind at least so much: 1 a choice, 2 one of two, 3 both,
    4 an element, 5 a match, 6 a comparison, 7 none. -/
def expression : Nat → Nat → Reader Expression
  | 0, _ => refuse
  | fuel + 1, least => do
    let first ← joined fuel
    let t ← token
    match ← placeOf? first, assignment? t with
    | some p, some operation =>
      skip
      return .assign p operation (← expression fuel 1)
    | _, _ => furtherOperators fuel least first

/-- The operators behind an expression. -/
def furtherOperators : Nat → Nat → Expression → Reader Expression
  | 0, _, _ => refuse
  | fuel + 1, least, left => do
    let t ← token
    let redirects ← isRedirecting
    match t with
    | .sign "?" =>
      if 1 < least then return left
      skip
      let yes ← expression fuel 1
      expect ":"
      let no ← expression fuel 1
      return .choose left yes no
    | .sign "||" =>
      if 2 < least then return left
      skip
      let right ← expression fuel 3
      furtherOperators fuel least (.either left right)
    | .sign "&&" =>
      if 3 < least then return left
      skip
      let right ← expression fuel 4
      furtherOperators fuel least (.both left right)
    | .word "in" =>
      if 4 < least then return left
      skip
      let array ← name
      useAs .array array
      furtherOperators fuel least (.hasElement [left] array)
    | .sign "~" | .sign "!~" =>
      if 5 < least then return left
      skip
      let right ← expression fuel 6
      furtherOperators fuel least (.matches (t == .sign "!~") left right)
    | t =>
      match comparison? t with
      | some c =>
        if 6 < least || (redirects && c == .greater) then return left
        skip
        let right ← expression fuel 7
        furtherOperators fuel least (.compare c left right)
      | none => return left

/-- Expressions that are joined. -/
def joined : Nat → Reader Expression
  | 0 => refuse
  | fuel + 1 => do
    let first ← arithmetic fuel 1
    furtherParts fuel first

/-- What is joined to an expression. -/
def furtherParts : Nat → Expression → Reader Expression
  | 0, _ => refuse
  | fuel + 1, left => do
    if startsOperand (← token) then
      let right ← arithmetic fuel 1
      furtherParts fuel (.join left right)
    else return left

/-- An expression whose operators bind at least so much: 1 a sum, 2 a product, 3 a sign,
    4 a line of a command, 5 a power. -/
def arithmetic : Nat → Nat → Reader Expression
  | 0, _ => refuse
  | fuel + 1, least => do
    let first ← unary fuel
    furtherOperations fuel least first

/-- The operations behind an expression. -/
def furtherOperations : Nat → Nat → Expression → Reader Expression
  | 0, _, _ => refuse
  | fuel + 1, least, left => do
    let operate (operation : Operation) (binds next : Nat) : Reader Expression := do
      if binds < least then return left
      skip
      let right ← arithmetic fuel next
      furtherOperations fuel least (.operate operation left right)
    match ← token with
    | .sign "+" => operate .add 1 2
    | .sign "-" => operate .subtract 1 2
    | .sign "*" => operate .multiply 2 3
    | .sign "/" => operate .divide 2 3
    | .sign "%" => operate .remainder 2 3
    | .sign "^" => operate .power 5 5
    | .sign "|" =>
      if 4 < least || (← isRedirecting) then return left
      skip
      if (← token) != .word "getline" then refuse
      skip
      let target ← target? fuel
      furtherOperations fuel least (.readLine (.command left) target)
    | _ => return left

/-- An expression behind signs, or one without any. -/
def unary : Nat → Reader Expression
  | 0 => refuse
  | fuel + 1 => do
    match ← token with
    | .sign "!" =>
      skip
      return .not (← arithmetic fuel 3)
    | .sign "-" =>
      skip
      return .negative (← arithmetic fuel 3)
    | .sign "+" =>
      skip
      return .positive (← arithmetic fuel 3)
    | _ =>
      let e ← primary fuel
      match ← placeOf? e, ← token with
      | some p, .sign "++" =>
        skip
        return .count p true false
      | some p, .sign "--" =>
        skip
        return .count p false false
      | _, _ => return e

/-- The place that a line is read to, if there is one. -/
def target? : Nat → Reader (Option Place)
  | 0 => refuse
  | fuel + 1 => do
    match ← token with
    | .name .. | .sign "$" =>
      let e ← primary fuel
      match ← placeOf? e with
      | some p => return some p
      | none => refuse
    | _ => return none

/-- Expressions between commas, at least one. -/
def expressions : Nat → Reader (List Expression)
  | 0 => refuse
  | fuel + 1 => do
    let first ← expression fuel 1
    if ← taken "," then return first :: (← expressions fuel)
    else return [first]

/-- Arguments up to a closing parenthesis. -/
def arguments : Nat → Reader (List Expression)
  | 0 => refuse
  | fuel + 1 => do
    if ← taken ")" then return []
    let es ← expressions fuel
    expect ")"
    return es

/-- An expression that holds together by itself. -/
def primary : Nat → Reader Expression
  | 0 => refuse
  | fuel + 1 => do
    let t ← token
    match t with
    | .number s =>
      if let some r := Floating.read .double s.toList then
        if r.outOfRange then
          let how := if r.value.isFinite then "underflow" else "overflow"
          complain (s ++ " : decimal " ++ how)
      skip
      return .number (leadingNumber s)
    | .text s =>
      skip
      return .text s
    | .pattern source =>
      let r ← patternOf source
      skip
      return .pattern r
    | .sign "(" =>
      skip
      let es ← expressions fuel
      expect ")"
      match es, ← token with
      | [e], _ => return e
      | es, .word "in" =>
        skip
        let array ← name
        useAs .array array
        return .hasElement es array
      | _, _ => refuse
    | .sign "$" =>
      skip
      let number ← fieldNumber fuel
      endPlace (.field number)
    | .sign "++" | .sign "--" =>
      skip
      let e ← primary fuel
      match ← placeOf? e with
      | some p => return .count p (t == .sign "++") true
      | none => refuse
    | .word "getline" =>
      skip
      let target ← target? fuel
      if ← taken "<" then return .readLine (.file (← arithmetic fuel 5)) target
      else return .readLine .main target
    | .word w =>
      match functionOf? w with
      | some f =>
        skip
        application fuel w f
      | none => refuse
    | .name n opens =>
      let kind ← kindOf? n
      skip
      if kind = some .function ∨ (opens ∧ kind = none) then
        expect "("
        let es ← arguments fuel
        let t ← front
        modify fun s =>
          { s with calls := (n, es.length, t.file ++ "line " ++ toString t.line ++ ": ") :: s.calls }
        return .call n es
      if ← taken "[" then
        useAs .array n
        let es ← expressions fuel
        expect "]"
        endPlace (.element n es)
      else
        -- The name of an array can be an argument; what else it is shows in the end.
        let next ← token
        let isArgument := next == .sign "," || next == .sign ")"
        if isArgument && kind != some .function then pure ()
        else useAs .variable_ n
        endPlace (.variable_ n)
    | _ => refuse

/-- What stands behind the sign of a field. -/
def fieldNumber : Nat → Reader Expression
  | 0 => refuse
  | fuel + 1 => do
    match ← token with
    | .sign "-" =>
      skip
      return .negative (← fieldNumber fuel)
    | .sign "+" =>
      skip
      return .positive (← fieldNumber fuel)
    | .sign "!" =>
      skip
      return .not (← fieldNumber fuel)
    | _ => primary fuel

/-- A function with its arguments, behind its name. -/
def application : Nat → String → Function → Reader Expression
  | 0, _, _ => refuse
  | fuel + 1, w, f => do
    if f = .length && !(← isAt "(") then return .apply f []
    expect "("
    match f with
    | .split =>
      let subject ← expression fuel 1
      expect ","
      let array ← name
      useAs .array array
      let rest ← if ← taken "," then pure [← expression fuel 1] else pure []
      expect ")"
      return .apply f (subject :: .value (.variable_ array) :: rest)
    | .match_ =>
      let subject ← expression fuel 1
      expect ","
      let pattern ← expression fuel 1
      expect ")"
      return .apply f [subject, pattern]
    | .sub | .gsub =>
      let pattern ← expression fuel 1
      expect ","
      let replacement ← expression fuel 1
      if ← taken "," then
        let before := (← front)
        let e ← primary fuel
        match ← placeOf? e with
        | some p =>
          expect ")"
          return .apply f [pattern, replacement, .value p]
        | none =>
          modify fun s => { s with tokens := before :: s.tokens }
          refuse
      else
        expect ")"
        return .apply f [pattern, replacement]
    | .length =>
      if ← taken ")" then return .apply f []
      let e ← expression fuel 1
      expect ")"
      return .apply f [e]
    | f =>
      let es ← arguments fuel
      let (least, most) := counts f
      if es.length < least || most < es.length then
        complain ("wrong number of arguments in call to " ++ w)
      return .apply f es

end

/-- What ends a statement. -/
def separator : Reader Unit := do
  match ← token with
  | .lineEnd | .sign ";" | .sign "\x7d;" => skip
  | _ => refuse

/-- Whether a token ends a statement or tells where output goes. -/
def endsValues : Token → Bool
  | .lineEnd => true
  | .sign s => s ∈ [";", "\x7d;", ">", ">>", "|"]
  | _ => false

/-- The values that are to be written. They may stand in parentheses. -/
def printedValues (fuel : Nat) : Reader (List Expression) := do
  if endsValues (← token) then return []
  let start ← get
  let plain : Reader (List Expression) := do
    set start
    expressions fuel
  if !(← isAt "(") then plain
  else
    let enclosed : Reader (List Expression) := do
      skip
      arguments fuel
    match ← ExceptT.lift enclosed.run with
    | .ok es =>
      if es.length != 1 && endsValues (← token) then return es else plain
    | .error () => plain

/-- Where output goes. -/
def redirection? (fuel : Nat) : Reader (Option (Redirection × Expression)) := do
  let kind? := match ← token with
    | .sign ">" => some Redirection.file
    | .sign ">>" => some .append
    | .sign "|" => some .command
    | _ => none
  modify fun s => { s with inPrint := false }
  match kind? with
  | none => return none
  | some kind =>
    skip
    return some (kind, ← expression fuel 1)

/-- A statement that has a word of its own and no others within. -/
def wordStatement (fuel : Nat) (w : String) : Reader Statement := do
  let within ← get
  let optional : Reader (Option Expression) := do
    match ← token with
    | .lineEnd | .sign ";" | .sign "\x7d;" => return none
    | _ => return some (← expression fuel 1)
  match w with
  | "print" | "printf" =>
    skip
    modify fun s => { s with inPrint := true }
    let es ← printedValues fuel
    if w = "printf" && es.isEmpty then complain "no arguments in call to printf"
    let target ← redirection? fuel
    return .print (w == "printf") es target
  | "next" | "nextfile" =>
    if within.parameters.isSome || within.isEdge then complain ("improper use of " ++ w)
    skip
    return if w = "next" then .next else .nextFile
  | "exit" =>
    skip
    return .exit (← optional)
  | "return" =>
    if within.parameters.isNone then complain "return outside function body"
    skip
    return .return_ (← optional)
  | "break" | "continue" =>
    if within.loops = 0 then complain (w ++ " statement outside of loop")
    skip
    return if w = "break" then .break_ else .continue_
  | "delete" =>
    skip
    let n ← name
    useAs .array n
    let es ← if ← taken "[" then
        let es ← expressions fuel
        expect "]"
        pure es
      else pure []
    return .delete n es
  | _ => return .evaluate (← expression fuel 1)

/-- Go on behind the statement that is wrong. -/
def recover : Nat → Reader Unit
  | 0 => throw ()
  | fuel + 1 => do
    match ← token with
    | .finish => throw ()
    | .lineEnd | .sign ";" | .sign "\x7d;" =>
      skip
      modify fun s => { s with parentheses := 0, inPrint := false }
    | _ =>
      skip
      recover fuel

/-- Something within a loop. -/
def looping {α : Type} (body : Reader α) : Reader α := do
  modify fun s => { s with loops := s.loops + 1 }
  let a ← body
  modify fun s => { s with loops := s.loops - 1 }
  return a

mutual

/-- A statement. -/
def statement : Nat → Reader Statement
  | 0 => refuse
  | fuel + 1 => do
    let condition : Reader Expression := do
      expect "("
      let e ← expression fuel 1
      expect ")"
      return e
    match ← token with
    | .sign "\x7b" => block fuel
    | .sign ";" | .sign "\x7d;" =>
      skip
      return .block []
    | .word "if" =>
      skip
      let c ← condition
      skipLineEnds
      let yes ← statement fuel
      if (← token) == .word "else" then
        skip
        skipLineEnds
        return .choose c yes (← statement fuel)
      else return .choose c yes (.block [])
    | .word "while" =>
      skip
      let c ← condition
      skipLineEnds
      return .repeatWhile c (← looping (statement fuel))
    | .word "do" =>
      skip
      skipLineEnds
      let body ← looping (statement fuel)
      if (← token) != .word "while" then refuse
      skip
      let c ← condition
      separator
      return .repeatUntilNot body c
    | .word "for" =>
      skip
      expect "("
      let ahead : List Token := ((← get).tokens.take 4).map (·.token)
      match ahead with
      | [.name n _, .word "in", .name array _, .sign ")"] =>
        useAs .variable_ n
        skip
        skip
        useAs .array array
        skip
        skip
        skipLineEnds
        return .forEach n array (← looping (statement fuel))
      | _ =>
        let upTo (s : String) : Reader (Option Expression) := do
          if ← taken s then return none
          let e ← expression fuel 1
          expect s
          return some e
        let start ← upTo ";"
        let c ← upTo ";"
        let step ← upTo ")"
        skipLineEnds
        return .repeatFor start c step (← looping (statement fuel))
    | .word w =>
      let s ← wordStatement fuel w
      separator
      return s
    | _ =>
      let e ← expression fuel 1
      separator
      return .evaluate e

/-- Statements between braces. -/
def block : Nat → Reader Statement
  | 0 => refuse
  | fuel + 1 => do
    expect "\x7b"
    let ss ← statements fuel
    expect "\x7d"
    return .block ss

/-- Statements up to a closing brace. -/
def statements : Nat → Reader (List Statement)
  | 0 => refuse
  | fuel + 1 => do
    if ← isAt "\x7d" then return []
    match ← ExceptT.lift (statement fuel).run with
    | .ok s => return s :: (← statements fuel)
    | .error () =>
      if (← get).isFatal then throw ()
      recover fuel
      statements fuel

end

/-- The names of parameters up to a closing parenthesis; `fuel` bounds their number. -/
def parameterNames : Nat → Reader (List String)
  | 0 => refuse
  | fuel + 1 => do
    let n ← name
    if ← taken "," then
      let rest ← parameterNames fuel
      if n ∈ rest then complain (n ++ " is duplicated in argument list")
      return n :: rest
    else
      expect ")"
      return [n]

/-- Print the record. -/
def printRecord : Statement := .print false [] none

/-- A function of the program, behind the word for it. -/
def definition (fuel : Nat) : Reader Unit := do
  let n ← name
  match ← kindOf? n with
  | none => modify fun s => { s with kinds := (n, .function) :: s.kinds }
  | some .function =>
    if (← get).functions.any (·.1 == n) then complain ("redefinition of " ++ n)
  | some kind =>
    complain ("illegal reference to " ++ described false kind n)
    throw ()
  expect "("
  let ps ← if ← taken ")" then pure [] else parameterNames fuel
  skipLineEnds
  modify fun s => { s with parameters := some (ps.map (·, none)) }
  let body ← block fuel
  modify fun s => { s with
    parameters := none
    functions := (n, ⟨ps, body⟩) :: s.functions }

/-- Something that is done before or behind all records. -/
def atEdge {α : Type} (body : Reader α) : Reader α := do
  modify fun s => { s with isEdge := true }
  let a ← body
  modify fun s => { s with isEdge := false }
  return a

/-- A rule or a function of the program. -/
def item (fuel : Nat) : Reader Unit := do
  let add (pattern : Pattern) (action : Statement) : Reader Unit :=
    modify fun s => { s with rules := ⟨pattern, action⟩ :: s.rules }
  match ← token with
  | .word "function" =>
    skip
    definition fuel
  | .word "BEGIN" =>
    skip
    add .begin_ (← atEdge (block fuel))
  | .word "END" =>
    skip
    add .end_ (← atEdge (block fuel))
  | .sign "\x7b" => add .always (← block fuel)
  | _ =>
    let e ← expression fuel 1
    let pattern ← if ← taken "," then
        let last ← expression fuel 1
        modify fun s => { s with ranges := s.ranges + 1 }
        pure (Pattern.range (← get).ranges e last)
      else pure (.when_ e)
    if ← isAt "\x7b" then add pattern (← block fuel)
    else
      separator
      add pattern printRecord

/-- Go on to the next brace that opens, where a rule is wrong. -/
def recoverRule : Nat → Reader Unit
  | 0 => throw ()
  | fuel + 1 => do
    match ← token with
    | .finish => throw ()
    | .sign "\x7b" => modify fun s => { s with parentheses := 0, parameters := none, loops := 0, isEdge := false }
    | _ =>
      skip
      recoverRule fuel

/-- The rules and functions of a program. -/
def items (fuel : Nat) : Nat → Reader Unit
  | 0 => return
  | rounds + 1 => do
    if (← token) == .finish then return
    match ← ExceptT.lift (item fuel).run with
    | .ok () => items fuel rounds
    | .error () =>
      if (← get).isFatal then throw ()
      recoverRule fuel
      items fuel rounds

end Reader

/-- How much is told of what is wrong with a program. -/
def faultLimit : Nat := 5

/-- What is wrong with calls of functions in a program that was read otherwise. -/
def Reading.callFaults (r : Reading) : List String :=
  let last := r.tokens.getLast?.elim ("", 0) fun t => (t.file, t.line)
  r.calls.reverse.filterMap fun (n, count, line) =>
    match r.functions.lookup n with
    | none => some (last.1 ++ "line " ++ toString last.2 ++ ": function " ++ n ++ " never defined")
    | some d =>
      if d.parameters.length < count then some (line ++ "too many arguments in call to " ++ n) else none

/-- The program that parts spell, each of which has the name of a file or none, or what is
    wrong with it. -/
def Program.read (parts : List (String × List Char)) : Except (List String) Program :=
  match Scan.ofParts parts with
  | .error text => .error [text]
  | .ok scan =>
    let tokens := scan.tokens.reverse
    let fuel := 12 * tokens.length + 100
    let start : Reading := {
      tokens, faults := (tokens.head?.elim [] (·.faults)).reverse, isFatal := false, inPrint := false
      parentheses := 0, braces := 0, loops := 0, isEdge := false, kinds := [], parameters := none, placeEnd := 0
      ranges := 0, calls := [], rules := [], functions := [] }
    let (_, r) := (Reader.items fuel (tokens.length + 1)).run.run start
    if !r.faults.isEmpty then .error (r.faults.reverse.take faultLimit)
    else
      let r := { r with tokens := tokens }
      match r.callFaults with
      | [] => .ok ⟨r.rules.reverse, r.functions⟩
      | faults => .error (faults.take faultLimit)

end CompileTree.Shell.Records
