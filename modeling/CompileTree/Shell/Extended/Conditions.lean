import CompileTree.Shell.Condition
import CompileTree.Shell.Extended.Running
import CompileTree.Shell.Utility.Regex

/-! # Conditions of the extended shell

Questions about texts, numbers, files, variables and options. Conditions in double
brackets are part of the language; those that are arguments of a command are told apart
by their number first.
-/

namespace CompileTree.Shell.Extended.Conditions

open Files Text Step Values

/-- Whether a variable or an element of an array is set. -/
def isSet (word : String) : Step Bool := do
  match Expansion.parameterOf? word with
  | some (.named name, none) => return (← value? name).isSome
  | some (.named name, some subscript) =>
    match ← content name, subscript with
    | .table elements, "@" => return !elements.isEmpty
    | c, "@" | c, "*" => return !c.values.isEmpty
    | _, _ =>
      match ← Expansion.element name subscript with
      | .one v => return v.isSome
      | .many _ values => return !values.isEmpty
  | _ => return false

/-- The answer to a question about one word. -/
def ask (question word : String) : Step Bool := do
  let s ← get
  let t := (← getThe System).files
  match question with
  | "-a" => return Shell.Condition.ask t s.process "-e" word
  | "-N" => return Shell.Condition.ask t s.process "-f" word
  | "-o" => return s.has word
  | "-v" => isSet word
  | "-R" => return (s.find? word).any (·.reference)
  | q =>
    if (s.process.pipeNamed? (← getThe System) word).isSome && q ∉ ["-h", "-L", "-n", "-z"] then
      return q ∈ ["-e", "-p", "-r", "-w", "-O", "-G"]
    else return Shell.Condition.ask t s.process q word

/-- The number that a word spells, with blanks around it. -/
def number? (word : String) : Option Int64 :=
  let isGap (c : Char) : Bool := c == ' ' || ('\t' ≤ c && c ≤ '\r')
  let cs := ((word.toList.dropWhile isGap).reverse.dropWhile isGap).reverse
  let (sign, digits) := match cs with
    | '-' :: rest => ((-1 : Int), rest)
    | '+' :: rest => (1, rest)
    | rest => (1, rest)
  let n := sign * (Script.Reader.digitsValue digits : Int)
  if !digits.isEmpty && digits.all Char.isDigit &&
      Int64.minValue.toInt ≤ n && n ≤ Int64.maxValue.toInt then some (Int64.ofInt n)
  else none

/-- Whether two numbers compare as a sign tells. -/
def compareNumbers (a : Int64) (sign : String) (b : Int64) : Bool :=
  match sign with
  | "-eq" => a == b
  | "-ne" => a != b
  | "-lt" => a < b
  | "-le" => a ≤ b
  | "-gt" => a > b
  | _ => a ≥ b

/-- The signs between numbers. -/
def numberSigns : List String := ["-eq", "-ne", "-lt", "-le", "-gt", "-ge"]

/-- Whether a file was changed after another one, which may be missing. -/
def isNewer (t : Tree) (p : Process) (a b : String) : Bool :=
  let time (word : String) : Option Nat :=
    (t.entry p.working true (Process.path word)).toOption.map fun (l, _) => (t.attributesAt l).time
  match time a, time b with
  | some x, some y => y < x
  | some _, none => true
  | none, _ => false

/-- The answer to a comparison of files. -/
def compareFiles (a sign b : String) : Step Bool := do
  let p := (← get).process
  let t := (← getThe System).files
  match sign with
  | "-nt" => return isNewer t p a b
  | "-ot" => return isNewer t p b a
  | _ => return (Shell.Condition.compare t p a "-ef" b).toOption == some true

/-- A regular expression with what is quoted in it standing for itself. -/
def regexText (marked : Marked) : List Char :=
  marked.flatMap fun (c, quoted) =>
    if quoted && c ∈ ['.', '[', ']', '(', ')', '*', '+', '?', '\x7b', '\x7d', '|', '^', '$', '\\'] then
      ['\\', c] else [c]

/-- Match a text with a regular expression, and keep what its groups match. The result is
    the status. -/
def matchRegex (text : String) (marked : Marked) : Step Nat := do
  let fold : Char → Char := if (← get).hasExtra "nocasematch" then Char.toLower else id
  match ((Utility.Regex.Dialect.editing true false).read (regexText marked)) with
  | .error _ => return 2
  | .ok (r, groups) =>
    match r.search fold [] text.toList with
    | none =>
      replace "BASH_REMATCH" (.list [])
      return 1
    | some m =>
      let texts := String.ofList m.matched ::
        (List.range groups).map fun i => String.ofList ((m.groups.lookup (i + 1)).getD [])
      setList "BASH_REMATCH" texts
      return 0

/-- A pattern as it is shown, with backslashes before what is quoted. -/
def shownPattern (marked : Marked) : String :=
  if marked.isEmpty then "''"
  else String.ofList (marked.flatMap fun (c, quoted) => if quoted then ['\\', c] else [c])

/-- The status for an answer. -/
def statusOf (yes : Bool) : Nat := if yes then 0 else 1

/-- The status of a condition in double brackets; `trace` shows what is asked. -/
def status (e : Runner) (trace : String → Step Unit) : Condition → Step Nat
  | .ask question w => do
    let text ← e.text w
    trace (question ++ " " ++ (if text = "" then "''" else text))
    return statusOf (← ask question text)
  | .compare a sign b => do
    let left ← e.text a
    let shownLeft := if left = "" then "''" else left
    let pattern := sign ∈ ["=", "==", "!="]
    if pattern || sign = "=~" then
      let marked ← Expansion.marked e.outside b
      trace (shownLeft ++ " " ++ sign ++ " " ++ shownPattern marked)
      if sign = "=~" then matchRegex left marked
      else
        let fold := (← get).hasExtra "nocasematch"
        let same := (Glob.ofMarked true marked).accepts fold left.toList
        return statusOf (same == (sign != "!="))
    else
      let right ← e.text b
      trace (shownLeft ++ " " ++ sign ++ " " ++ (if right = "" then "''" else right))
      if sign ∈ numberSigns then
        let x ← calculate left
        let y ← calculate right
        return statusOf (compareNumbers x sign y)
      match sign with
      | "<" => return statusOf (left < right)
      | ">" => return statusOf (right < left)
      | sign => return statusOf (← compareFiles left sign right)
  | .negated c => do
    let n ← status e (fun text => trace ("! " ++ text)) c
    return if n = 0 then 1 else if n = 1 then 0 else n
  | .both a b => do
    let n ← status e trace a
    if n = 0 then status e trace b else return n
  | .either a b => do
    let n ← status e trace a
    if n = 0 then return 0 else status e trace b
  | .grouped c => status e trace c

/-- Steps in which a condition is answered that consists of words; what is wrong is told. -/
abbrev Asking := StateT Nat (ExceptT String Step)

namespace Asking

/-- The signs of comparisons between words. -/
def signs : List String := ["=", "==", "!=", "<", ">", "-nt", "-ot", "-ef"] ++ numberSigns

/-- The answer to a comparison of words. -/
def compare (a sign b : String) : Asking Bool := do
  match sign with
  | "=" | "==" => return a == b
  | "!=" => return a != b
  | "<" => return a < b
  | ">" => return b < a
  | sign =>
    if sign ∈ numberSigns then
      match number? a, number? b with
      | some x, some y => return compareNumbers x sign y
      | none, _ => throw (a ++ ": integer expression expected")
      | _, none => throw (b ++ ": integer expression expected")
    else liftM (m := Step) (compareFiles a sign b)

/-- The answer to a question. -/
def question (q word : String) : Asking Bool := do
  if q = "-t" && (number? word).isNone then throw (word ++ ": integer expression expected")
  liftM (m := Step) (ask q word)

/-- The word at a position. -/
def wordAt (ws : Array String) (i : Nat) : String := (ws[i]?).getD ""

/-- The answer of two words. -/
def two (ws : Array String) : Asking Bool := do
  let i ← get
  let first := wordAt ws i
  if first = "!" then return wordAt ws (i + 1) == ""
  else if first ∈ questions then question first (wordAt ws (i + 1))
  else throw (first ++ ": unary operator expected")

/-- The answer of three words. -/
def three (ws : Array String) : Asking Bool := do
  let i ← get
  let a := wordAt ws i
  let b := wordAt ws (i + 1)
  let c := wordAt ws (i + 2)
  if b ∈ signs then compare a b c
  else if b = "-a" then return a != "" && c != ""
  else if b = "-o" then return a != "" || c != ""
  else if a = "!" then
    set (i + 1)
    return !(← two ws)
  else if a = "(" && c = ")" then return b != ""
  else throw (b ++ ": binary operator expected")

/-- The answer of a part without conjunctions; `whole` answers what stands in parentheses. -/
def term (ws : Array String) (whole : Asking Bool) : Nat → Asking Bool
  | 0 => throw "argument expected"
  | fuel + 1 => do
    let i ← get
    match ws[i]? with
    | none => throw "argument expected"
    | some "!" =>
      set (i + 1)
      return !(← term ws whole fuel)
    | some "(" =>
      set (i + 1)
      let yes ← whole
      let j ← get
      match ws[j]? with
      | none => throw "\x60)' expected"
      | some ")" =>
        set (j + 1)
        return yes
      | some other => throw ("\x60)' expected, found " ++ other)
    | some word =>
      if i + 3 ≤ ws.size && wordAt ws (i + 1) ∈ signs then
        let yes ← compare word (wordAt ws (i + 1)) (wordAt ws (i + 2))
        set (i + 3)
        return yes
      else if i + 2 ≤ ws.size && word ∈ questions then
        let yes ← question word (wordAt ws (i + 1))
        set (i + 2)
        return yes
      else
        set (i + 1)
        return word != ""

/-- Conjunctions, or disjunctions of what `part` answers. -/
def chain (ws : Array String) (part : Asking Bool) (link : String) (join : Bool → Bool → Bool) :
    Nat → Asking Bool
  | 0 => part
  | fuel + 1 => do
    let a ← part
    let i ← get
    if ws[i]? = some link then
      set (i + 1)
      let b ← chain ws part link join fuel
      return join a b
    else return a

/-- The answer of any number of words; `fuel` bounds how deep parentheses stand. -/
def whole (ws : Array String) : Nat → Asking Bool
  | 0 => throw "argument expected"
  | fuel + 1 => do
    if ws.size ≤ (← get) then throw "argument expected"
    let bound := ws.size + 1
    let conjunction := chain ws (term ws (whole ws fuel) bound) "-a" (· && ·) bound
    chain ws conjunction "-o" (· || ·) bound

/-- The answer of all words. -/
def all (words : List String) : Asking Bool := do
  let ws := words.toArray
  let general : Asking Bool := do
    let yes ← whole ws (ws.size + 1)
    match ws[← get]? with
    | none => return yes
    | some word =>
      if word.startsWith "-" then throw ("syntax error: \x60" ++ word ++ "' unexpected")
      else throw "too many arguments"
  match words with
  | [] => return false
  | [a] => return a != ""
  | [_, _] => two ws
  | [_, _, _] => three ws
  | [a, _, _, d] =>
    if a = "!" then
      set 1
      return !(← three ws)
    else if a = "(" && d = ")" then
      set 1
      two ws
    else general
  | _ => general

end Asking

/-- The status of a condition that consists of words, or what is wrong with it. -/
def ofWords (name : String) (words : List String) : Step (Except String Nat) := do
  let answer (words : List String) : Step (Except String Nat) := do
    match ← ((Asking.all words).run 0).run with
    | .ok (yes, _) => return .ok (statusOf yes)
    | .error text => return .error text
  if name = "[" then
    if words.getLast? == some "]" then answer words.dropLast else return .error "missing \x60]'"
  else answer words

end CompileTree.Shell.Extended.Conditions
