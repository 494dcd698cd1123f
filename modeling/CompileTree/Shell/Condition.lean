import CompileTree.Shell.Arithmetic
import CompileTree.Shell.Process

/-! # Conditions

Conditions on texts, numbers and files, spelled as words: comparisons, questions
about one word, negations, parentheses, and conjunctions within disjunctions. With
three or four words their number decides first what they mean.
-/

namespace CompileTree.Shell.Condition

open Files

/-- What is wrong with a condition. -/
inductive Fault where
  | missingBracket
  /-- The condition ends before a word. -/
  | unexpected (last word : String)
  | argumentExpected (word : String)
  | unclosed
  | noNumber (word : String)
  deriving DecidableEq, Repr

/-- What a word means in a condition. -/
inductive Role where
  | finish
  | operand
  | unary
  | binary
  | negation
  | conjunction
  | disjunction
  | opening
  | closing
  deriving DecidableEq, Repr

/-- The questions about one word. -/
def unaryWords : List String :=
  ["-r", "-w", "-x", "-e", "-f", "-d", "-c", "-b", "-p", "-u", "-g", "-k", "-s", "-t", "-z", "-n",
    "-h", "-O", "-G", "-L", "-S"]

/-- The comparisons. -/
def binaryWords : List String :=
  ["=", "!=", "<", ">", "-eq", "-ne", "-ge", "-gt", "-le", "-lt", "-nt", "-ot", "-ef"]

/-- What a word means by itself. -/
def roleOf (word : String) : Role :=
  if word ∈ unaryWords then .unary
  else if word ∈ binaryWords then .binary
  else
    match word with
    | "!" => .negation
    | "-a" => .conjunction
    | "-o" => .disjunction
    | "(" => .opening
    | ")" => .closing
    | _ => .operand

/-- What the word at a position means; what would ask about a missing word or one that
    is compared is no question. -/
def role (ws : Array String) (i : Nat) : Role :=
  match ws[i]? with
  | none => .finish
  | some word =>
    match roleOf word with
    | .unary =>
      match ws[i + 1]?, ws[i + 2]? with
      | none, _ => .operand
      | some _, none => .unary
      | some next, some _ => if roleOf next = .binary then .operand else .unary
    | .opening => if ws[i + 1]?.isNone then .operand else .opening
    | r => r

/-- The number that a word spells. -/
def number (word : String) : Except Fault Int64 :=
  let isGap (c : Char) : Bool := c == ' ' || ('\t' ≤ c && c ≤ '\r')
  let cs := word.toList.dropWhile isGap
  let (sign, cs) := match cs with
    | '-' :: rest => ((-1 : Int), rest)
    | '+' :: rest => (1, rest)
    | rest => (1, rest)
  let (n, rest) := Arithmetic.digits 10 cs
  if (cs.head?.any Char.isDigit) && rest.all isGap then .ok (Arithmetic.clamp (sign * n))
  else .error (.noNumber word)

/-- The answer to a question about one word. -/
def ask (t : Tree) (p : Process) (question word : String) : Bool :=
  let found (followLast : Bool) : Option (Location × Entry) :=
    if word = "" then none else (t.entry p.working followLast (Process.path word)).toOption
  match question with
  | "-z" => word == ""
  | "-n" => word != ""
  | "-h" | "-L" =>
    match found false with
    | some (_, .link _) => true
    | _ => false
  | "-d" =>
    match found true with
    | some (_, .directory) => true
    | _ => false
  | "-f" =>
    match found true with
    | some (_, .file ..) => true
    | _ => false
  | "-c" =>
    match found true with
    | some (_, .device (.queue _)) | some (_, .device (.stream _)) => false
    | some (_, .device _) => true
    | _ => false
  | "-p" =>
    match found true with
    | some (_, .device (.queue _)) | some (_, .device (.stream _)) => true
    | _ => false
  | "-u" => (found true).any fun (l, _) => t.modeAt l / 0o4000 % 2 = 1
  | "-g" => (found true).any fun (l, _) => t.modeAt l / 0o2000 % 2 = 1
  | "-k" => (found true).any fun (l, _) => t.modeAt l / 0o1000 % 2 = 1
  | "-s" =>
    match found true with
    | some (_, .file bytes _) => bytes.size != 0
    | some (_, .device _) => false
    | some _ => true
    | none => false
  | "-x" =>
    match found true with
    | some (_, .file _ executable) => executable
    | some (_, .device _) => false
    | some _ => true
    | none => false
  | "-e" | "-r" | "-w" | "-O" | "-G" => (found true).isSome
  | _ => false

/-- Whether a file was changed after another one. -/
def isNewer (t : Tree) (p : Process) (a b : String) : Bool :=
  let time (word : String) : Option Nat :=
    (t.entry p.working true (Process.path word)).toOption.map fun (l, _) => (t.attributesAt l).time
  match time a, time b with
  | some x, some y => y < x
  | _, _ => false

/-- The answer to a comparison. -/
def compare (t : Tree) (p : Process) (a operator b : String) : Except Fault Bool := do
  let place (word : String) : Option Location :=
    (t.entry p.working true (Process.path word)).toOption.map (·.1)
  match operator with
  | "=" => return a == b
  | "!=" => return a != b
  | "<" => return a < b
  | ">" => return b < a
  | "-nt" => return isNewer t p a b
  | "-ot" => return isNewer t p b a
  | "-ef" => return (place a).isSome && place a == place b
  | _ =>
    let x ← number a
    let y ← number b
    match operator with
    | "-eq" => return x == y
    | "-ne" => return x != y
    | "-lt" => return x < y
    | "-le" => return x ≤ y
    | "-gt" => return x > y
    | _ => return x ≥ y

/-- The answer of a part of a condition that starts at a position, with the position of
    its last word. `whole` answers what stands in parentheses. -/
def primary (t : Tree) (p : Process) (ws : Array String)
    (whole : Nat → Role → Except Fault (Bool × Nat)) (i : Nat) (r : Role) :
    Except Fault (Bool × Nat) := do
  let word := ws[i]?.getD ""
  match r with
  | .finish => return (false, i)
  | .opening =>
    let inner := role ws (i + 1)
    if inner = .closing then return (false, i + 1)
    let (answer, j) ← whole (i + 1) inner
    if role ws (j + 1) = .closing then return (answer, j + 1) else throw .unclosed
  | .unary =>
    match ws[i + 1]? with
    | some operand => return (ask t p word operand, i + 1)
    | none => throw (.argumentExpected word)
  | _ =>
    if role ws (i + 1) = .binary then
      let operator := ws[i + 1]?.getD ""
      match ws[i + 2]? with
      | some b => return (← compare t p word operator b, i + 2)
      | none => throw (.argumentExpected operator)
    else return (word != "", i)

/-- A negation or a primary. -/
def negation (t : Tree) (p : Process) (ws : Array String)
    (whole : Nat → Role → Except Fault (Bool × Nat)) :
    Nat → Nat → Role → Except Fault (Bool × Nat)
  | 0, i, _ => return (false, i)
  | fuel + 1, i, r =>
    if r = .negation then do
      let next := role ws (i + 1)
      let (answer, j) ← negation t p ws whole fuel (if next = .finish then i else i + 1) next
      return (!answer, j)
    else primary t p ws whole i r

/-- Conjunctions, or disjunctions of what `part` answers. -/
def chain (ws : Array String) (part : Nat → Role → Except Fault (Bool × Nat)) (link : Role) :
    Nat → Nat → Role → Except Fault (Bool × Nat)
  | 0, i, _ => return (false, i)
  | fuel + 1, i, r => do
    let (answer, j) ← part i r
    if role ws (j + 1) = link then
      let (others, k) ← chain ws part link fuel (j + 2) (role ws (j + 2))
      return (if link = .conjunction then answer && others else answer || others, k)
    else return (answer, j)

/-- The answer of a condition that starts at a position, with the position of its last
    word; `fuel` bounds how deep parentheses stand in each other. -/
def whole (t : Tree) (p : Process) (ws : Array String) :
    Nat → Nat → Role → Except Fault (Bool × Nat)
  | 0, i, _ => return (false, i)
  | fuel + 1, i, r =>
    let bound := ws.size + 1
    let negated := negation t p ws (whole t p ws fuel) bound
    chain ws (chain ws negated .conjunction bound) .disjunction bound i r

/-- The answer of a condition. -/
def answer (t : Tree) (p : Process) : Nat → List String → Except Fault Bool
  | 0, _ => return false
  | fuel + 1, words => do
    let general (ws : List String) (r : Role) : Except Fault Bool := do
      let ws := ws.toArray
      let (yes, i) ← whole t p ws (ws.size + 1) 0 r
      match ws[i]?, ws[i + 1]? with
      | some last, some word => throw (.unexpected last word)
      | _, _ => return yes
    match words with
    | [] => return false
    | [_, b, _] =>
      if roleOf b = .binary then general words .operand else few fuel general words
    | [_, _, _, _] => few fuel general words
    | words => general words (role words.toArray 0)
where
  few (fuel : Nat) (general : List String → Role → Except Fault Bool) (words : List String) :
      Except Fault Bool := do
    if words.head? == some "(" && words.getLast? == some ")" then
      let inner := (words.drop 1).dropLast
      general inner (role inner.toArray 0)
    else if words.head? == some "!" then return !(← answer t p fuel (words.drop 1))
    else general words (role words.toArray 0)

/-- The answer that a program of a given name gives to a condition. -/
def ofArguments (t : Tree) (p : Process) (name : String) (words : List String) :
    Except Fault Bool :=
  if name = "[" then
    if words.getLast? == some "]" then answer t p (words.length + 1) words.dropLast
    else .error .missingBracket
  else answer t p (words.length + 1) words

end CompileTree.Shell.Condition
