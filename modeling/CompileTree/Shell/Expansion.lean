import CompileTree.Shell.Arithmetic
import CompileTree.Shell.Pattern
import CompileTree.Shell.Process
import CompileTree.Shell.Session

/-! # Expanding words

A word becomes characters that remember whether they were quoted and whether they
came from an expansion. These are cut into fields where separators came from an
expansion, and fields that are patterns become the names of the files they match.
-/

/-! ## Fields

What words become when they are expanded: characters that remember whether they were
quoted and whether they came from an expansion, and marks between them. They are cut
into fields where separators came from an expansion.
-/

namespace CompileTree.Shell.Fields

/-- What words become before they are cut into fields. -/
inductive Piece where
  /-- A character; `split` tells whether it may separate fields. -/
  | char (c : Char) (quoted split : Bool)
  /-- Nothing, but a field that would be empty stays for it. -/
  | keep
  /-- The place between two arguments in quotation marks. -/
  | border
  /-- The place between two arguments. -/
  | gap
  /-- The end of an expansion. -/
  | edge
  deriving DecidableEq, Repr

/-- The text that pieces spell. -/
def textOf (ps : List Piece) : String :=
  String.ofList (ps.filterMap fun
    | .char c .. => some c
    | _ => none)

/-- The characters of pieces with whether they are quoted. -/
def markedOf (ps : List Piece) : Marked :=
  ps.filterMap fun
    | .char c quoted _ => some (c, quoted)
    | _ => none

/-- Where a word is cut: the field that is being gathered, in reverse, and whether a
    blank has just ended one. -/
structure Cutting where
  field : Option Marked
  spaced : Bool

/-- Pieces cut into fields by separators. -/
def cut (separators : List Char) : Cutting → List Piece → List Marked
  | at_, [] => at_.field.toList.map List.reverse
  | at_, .keep :: rest => cut separators ⟨some (at_.field.getD []), false⟩ rest
  | at_, .border :: rest => (at_.field.getD []).reverse :: cut separators ⟨some [], false⟩ rest
  | at_, .gap :: rest =>
    match at_.field with
    | some field => field.reverse :: cut separators ⟨none, true⟩ rest
    | none => cut separators at_ rest
  | at_, .edge :: rest => cut separators { at_ with spaced := false } rest
  | at_, .char c quoted split :: rest =>
    if split && separators.contains c then
      let blank := c == ' ' || c == '\t' || c == '\n'
      match at_.field with
      | some field => field.reverse :: cut separators ⟨none, blank⟩ rest
      | none =>
        if blank then cut separators at_ rest
        else if at_.spaced then cut separators ⟨none, false⟩ rest
        else [] :: cut separators ⟨none, false⟩ rest
    else cut separators ⟨some ((c, quoted) :: at_.field.getD []), false⟩ rest

end CompileTree.Shell.Fields

/-! ## Names of files that match a pattern

A pattern with separators is followed directory by directory. A name that starts
with a dot is only found by a pattern that starts with one.
-/

namespace CompileTree.Shell.Pathnames

open Files Text

/-- The parts of a pattern between separators, each with the separators before it. -/
def segments (cs : Marked) : List (String × Marked) :=
  match cs with
  | [] => []
  | cs =>
    let slashes := cs.takeWhile (·.1 == '/')
    let rest := cs.dropWhile (·.1 == '/')
    let segment := rest.takeWhile (·.1 != '/')
    let after := rest.dropWhile (·.1 != '/')
    if _h : after.length < cs.length then
      (String.ofList (slashes.map (·.1)), segment) :: segments after
    else []
termination_by cs.length

/-- The names in a directory, with those of the directory itself and the one above. -/
def namesIn (t : Tree) (p : Process) (directory : String) : List String :=
  match t.entry p.working true (Process.path (if directory = "" then "." else directory)) with
  | .ok (l, .directory) => [".", ".."] ++ (t.children l).map fun child => spread child.1
  | _ => []

/-- Whether anything stands under a path. -/
def isThere (t : Tree) (p : Process) (path : String) : Bool :=
  (t.entry p.working false (Process.path path)).toOption.isSome

/-- The paths behind a given one that match the parts of a pattern. -/
def matching (t : Tree) (p : Process) (before : String) : List (String × Marked) → List String
  | [] => if isThere t p before then [before] else []
  | (slashes, segment) :: rest =>
    let pattern := Pattern.ofMarked segment
    let before := before ++ slashes
    if pattern.isOpen then
      let hidden := pattern.head? == some (.one '.')
      let found := (namesIn t p before).filter fun name =>
        (hidden || !name.startsWith ".") && pattern.accepts name.toList
      found.flatMap fun name => matching t p (before ++ name) rest
    else matching t p (before ++ String.ofList pattern.literal) rest

/-- The paths that match a pattern, in order. -/
def expand (t : Tree) (p : Process) (cs : Marked) : List String :=
  (matching t p "" (segments cs)).mergeSort fun a b => !(b < a)

end CompileTree.Shell.Pathnames

namespace CompileTree.Shell.Expansion

open Files Script Text Run Fields

/-- What fields are made of a word. -/
inductive Purpose where
  /-- Fields are cut where expansions have separators. -/
  | fields
  /-- Fields are cut where anything unquoted has separators. -/
  | otherFields
  /-- It stays one text. -/
  | text
  deriving DecidableEq, Repr

/-- How a parameter is written. -/
def parameterName : Parameter → String
  | .position n => toString n
  | .count => "#"
  | .each => "@"
  | .joined => "*"
  | .status => "?"
  | .process => "$"
  | .options => "-"
  | .lastJob => "!"
  | .named name => name

/-- The letters of options in the order in which they are shown. -/
def optionLetters : List Char :=
  ['u', 'b', 'a', 'C', 'E', 'V', 'v', 'x', 's', 'n', 'm', 'i', 'I', 'f', 'e']

/-- Arguments in one text, with the first separator in between. -/
def joinedArguments (s : Session) : String :=
  (s.separators.head?.elim "" String.singleton).intercalate s.arguments

/-- The value of a parameter. -/
def parameterValue (s : Session) : Parameter → Option String
  | .position 0 => some s.name
  | .position (n + 1) => s.arguments[n]?
  | .count => some (toString s.arguments.length)
  | .each | .joined => some (joinedArguments s)
  | .status => some (toString s.status)
  | .process => some (toString s.root)
  | .options => some (String.ofList (optionLetters.filter s.has))
  | .lastJob => s.lastJob.map toString
  | .named name => s.value? name

/-- The pieces of a value. -/
def valuePieces (quoted : Bool) (purpose : Purpose) (text : String) : List Piece :=
  let split := purpose != .text && !quoted
  text.toList.map (.char · quoted split) ++ (if split then [.edge] else [])

/-- Whether a parameter stands for arguments that stay apart. -/
def isSeparate (quoted : Bool) (purpose : Purpose) (p : Parameter) : Bool :=
  purpose != .text && (p == .each || (p == .joined && !quoted))

/-- The pieces of arguments that stay apart. -/
def argumentPieces (quoted : Bool) (arguments : List String) : List Piece :=
  let separated (between : Piece) :=
    [between].intercalate (arguments.map fun a => a.toList.map (Piece.char · quoted (!quoted)))
  if !quoted then separated .gap ++ [.edge]
  else if arguments.isEmpty then []
  else .keep :: separated .border

/-- The pieces of the value that a parameter has. -/
def parameterPieces (s : Session) (quoted : Bool) (purpose : Purpose) (p : Parameter) :
    List Piece :=
  if isSeparate quoted purpose p then argumentPieces quoted s.arguments
  else valuePieces quoted purpose ((parameterValue s p).getD "")

/-- What a pattern leaves of a text, if it takes anything off. -/
def trimmed? (how : Trim) (pattern : Pattern) (text : String) : Option String :=
  let cs := text.toList
  let left := match how with
    | .shortestStart => (pattern.startLength? false cs).map cs.drop
    | .longestStart => (pattern.startLength? true cs).map cs.drop
    | .shortestEnd => (pattern.restLength? false cs).map cs.take
    | .longestEnd => (pattern.restLength? true cs).map cs.take
  left.map String.ofList

/-- What a pattern leaves of arguments that stay apart. What is taken off the start
    belongs to the first one, with all others if nothing is left of it and the longest
    start is wanted; what is taken off the end takes all behind it along. -/
def trimmedArguments (how : Trim) (pattern : Pattern) : List String → List String
  | [] => []
  | first :: rest =>
    match how with
    | .shortestStart => ((trimmed? how pattern first).getD first) :: rest
    | .longestStart =>
      match trimmed? how pattern first with
      | some "" => [""]
      | left => left.getD first :: rest
    | .longestEnd =>
      match trimmed? how pattern first with
      | some left => [left]
      | none => first :: rest
    | .shortestEnd =>
      match ((first :: rest).reverse.findIdx? fun a => (trimmed? how pattern a).isSome) with
      | none => first :: rest
      | some i =>
        let kept := (first :: rest).take (rest.length + 1 - i)
        kept.dropLast ++ (trimmed? how pattern (kept.getLastD "")).toList

/-- The home directory of a user, or of whoever runs the shell. -/
def home (s : Session) (user : String) : Option String :=
  if user = "" then s.value? "HOME"
  else if user = "root" then some "/root"
  else none

/-- How variables are used in expressions. -/
def access (text : String) : Arithmetic.Access Run where
  read name := do
    match ← value? name with
    | none => return 0
    | some v =>
      match Arithmetic.ofValue? v with
      | some n => return n
      | none => fault ("Illegal number: " ++ v) 2
  assign name n := Run.assign name (toString n.toInt) false
  divisionByZero := fault ("arithmetic expression: division by zero: \"" ++ text ++ "\"") 2

/-- The value of an expression as a text. -/
def arithmetic (text : String) : Run String := do
  match Arithmetic.ofText text.toList with
  | .error e => fault ("arithmetic expression: " ++ e ++ ": \"" ++ text ++ "\"") 2
  | .ok e => return toString (← e.value (access text)).toInt

/-- The value of a parameter that has to have one if the option says so. -/
def required (p : Parameter) : Run String := do
  let s ← get
  match parameterValue s p with
  | some v => return v
  | none =>
    if s.has 'u' then fault (parameterName p ++ ": parameter not set") 2 else return ""

/-- What a command writes, without line ends at its end. -/
def trimmedOutput (text : String) : String :=
  String.ofList ((text.toList.reverse.dropWhile (· == '\n')).reverse.filter (· ≠ '\x00'))

mutual

/-- The pieces of a word; `output` runs a command and returns what it writes. -/
def pieces (output : Statement → Run String) (purpose : Purpose) : List Part → Run (List Piece)
  | [] => return []
  | part :: rest => do
    let ps ← piecesOf output purpose part
    return ps ++ (← pieces output purpose rest)

/-- The pieces of a part of a word. -/
def piecesOf (output : Statement → Run String) (purpose : Purpose) : Part → Run (List Piece)
  | .text quoted cs =>
    return if quoted && cs.isEmpty then [.keep]
      else cs.map (Piece.char · quoted (purpose == .otherFields && !quoted))
  | .home user => do
    match home (← get) (String.ofList user) with
    | some directory => return directory.toList.map (Piece.char · true false)
    | none => return ('~' :: user).map (Piece.char · false false)
  | .value quoted p m => modified output purpose quoted p m
  | .output quoted c => do
    return valuePieces quoted purpose (trimmedOutput (← output c))
  | .arithmetic quoted e => do
    return valuePieces quoted purpose (← arithmetic (textOf (← pieces output .text e)))

/-- The pieces of what is made of a parameter. -/
def modified (output : Statement → Run String) (purpose : Purpose) (quoted : Bool) (p : Parameter) :
    Modifier → Run (List Piece)
  | .plain => do
    let _ ← required p
    return parameterPieces (← get) quoted purpose p
  | .length => do
    return valuePieces quoted purpose (toString (← required p).length)
  | .missing how alsoEmpty other => do
    let s ← get
    let v := parameterValue s p
    let there := v.isSome && !(alsoEmpty && v == some "")
    let inner := if purpose == .text || quoted then purpose else .otherFields
    match how with
    | .instead => if there then pieces output inner other else return []
    | .other =>
      if there then return parameterPieces s quoted purpose p
      else pieces output inner other
    | .assign =>
      if there then return parameterPieces s quoted purpose p
      let text := textOf (← pieces output .text other)
      Run.assign (parameterName p) text false
      return valuePieces quoted purpose text
    | .complain =>
      if there then return parameterPieces s quoted purpose p
      let text := textOf (← pieces output .text other)
      let empty := other.isEmpty
      let message := if empty then "parameter not set" ++ (if alsoEmpty then " or null" else "")
        else text
      fault (parameterName p ++ ": " ++ message) 2
  | .trimmed how other => do
    let text ← required p
    if (parameterValue (← get) p).isNone then return []
    let pattern := Pattern.ofMarked (markedOf (← pieces output .text other))
    if isSeparate quoted purpose p then
      return argumentPieces quoted (trimmedArguments how pattern (← get).arguments)
    return valuePieces quoted purpose ((trimmed? how pattern text).getD text)
  | .malformed => fault "Bad substitution" 2

end

/-- The names of files that a field stands for, or its text. -/
def namesFor (field : Marked) : Run (List String) := do
  let s ← get
  let literal := String.ofList (field.map (·.1))
  let mayMatch := !s.has 'f' && field.any fun (c, quoted) => !quoted && (c ∈ ['*', '?', '['])
  if !mayMatch then return [literal]
  match Pathnames.expand (← getThe System).files s.process field with
  | [] => return [literal]
  | found => return found

/-- The fields of a word. -/
def fields (output : Statement → Run String) (w : Word) : Run (List String) := do
  let ps ← pieces output .fields w
  return (← (cut (← get).separators ⟨none, false⟩ ps).mapM namesFor).flatten

/-- The text of a word or document that is not cut into fields. -/
def text (output : Statement → Run String) (w : Word) : Run String := do
  return textOf (← pieces output .text w)

/-- The pattern that a word spells. -/
def pattern (output : Statement → Run String) (w : Word) : Run Pattern := do
  return Pattern.ofMarked (markedOf (← pieces output .text w))

end CompileTree.Shell.Expansion
