import CompileTree.Shell.Process

/-! # Options of utilities

Utilities are native programs. Their options may stand anywhere before two hyphens,
and what is wrong with the arguments is told with a hint.
-/

namespace CompileTree.Shell.Utility

open Files

/-- A native program: it is called by its first argument. -/
abbrev Program := Process → List String → Act Nat

/-- Arguments with their options set apart. -/
structure Given where
  options : List (Char × String)
  operands : List String

namespace Given

/-- Whether an option is there. -/
def has (g : Given) (option : Char) : Bool := g.options.any (·.1 == option)

/-- The argument of the last option of a letter. -/
def valueOf? (g : Given) (option : Char) : Option String :=
  (g.options.filter (·.1 == option)).getLast?.map (·.2)

end Given

/-- The options that a utility has. Those that have a long name only stand for
    themselves by a letter that no argument can hold. -/
structure Allowed where
  /-- The letters of options. -/
  plain : List Char
  /-- The letters of options that take an argument. -/
  valued : List Char
  /-- The long names of options with their letters. One with a question mark behind it
      takes an argument only if that is joined to it. -/
  long : List (String × Char)
  /-- Whether options only count before all other arguments. -/
  leading : Bool

namespace Allowed

/-- The options that the letters of one argument spell, and what is left of the others. -/
def letters (a : Allowed) : List Char → List String →
    Except String (List (Char × String) × List String)
  | [], rest => .ok ([], rest)
  | c :: cs, rest =>
    if c ∈ a.plain then do
      let (os, rest) ← a.letters cs rest
      return ((c, "") :: os, rest)
    else if c ∈ a.valued then
      match cs, rest with
      | [], [] => .error ("option requires an argument -- '" ++ String.singleton c ++ "'")
      | [], value :: rest => .ok ([(c, value)], rest)
      | cs, rest => .ok ([(c, String.ofList cs)], rest)
    else .error ("invalid option -- '" ++ String.singleton c ++ "'")

/-- The long names without their marks, with their letters and whether they are marked. -/
def names (a : Allowed) : List (String × Char × Bool) :=
  a.long.map fun (name, letter) =>
    if name.endsWith "?" then ((name.dropEnd 1).copy, letter, true) else (name, letter, false)

/-- The long option that a name stands for, which may be cut short. -/
def named (a : Allowed) (name : String) : Except String (String × Char × Bool) :=
  let all := a.names
  match all.find? (·.1 == name), all.filter (·.1.startsWith name) with
  | some found, _ => .ok found
  | none, [] => .error "unrecognized option"
  | none, first :: others =>
    if others.all (·.2.1 == first.2.1) then .ok first
    else .error ("possibilities: " ++
      " ".intercalate ((first :: others).map fun (n, _) => "'" ++ n ++ "'"))

/-- The option that a long name spells, and what is left of the other arguments. -/
def longName (a : Allowed) (argument : String) (rest : List String) :
    Except String ((Char × String) × List String) :=
  let cs := argument.toList
  let name := String.ofList (cs.takeWhile (· ≠ '='))
  match a.named name with
  | .error "unrecognized option" => .error ("unrecognized option '" ++ argument ++ "'")
  | .error text => .error ("option '" ++ name ++ "' is ambiguous; " ++ text)
  | .ok (full, letter, isOptional) =>
    match cs.dropWhile (· ≠ '='), a.valued.contains letter, rest with
    | _ :: value, takes, rest =>
      if takes || isOptional then .ok ((letter, String.ofList value), rest)
      else .error ("option '" ++ full ++ "' doesn't allow an argument")
    | [], takes, rest =>
      if !takes || isOptional then .ok ((letter, ""), rest)
      else match rest with
        | value :: rest => .ok ((letter, value), rest)
        | [] => .error ("option '" ++ full ++ "' requires an argument")

/-- Set the options of arguments apart; `fuel` bounds their number. -/
def separateWithin (a : Allowed) : Nat → List String → Except String Given
  | 0, rest => .ok ⟨[], rest⟩
  | _ + 1, [] => .ok ⟨[], []⟩
  | fuel + 1, argument :: rest =>
    match argument.toList with
    | ['-', '-'] => .ok ⟨[], rest⟩
    | '-' :: '-' :: _ => do
      let (o, rest) ← a.longName argument rest
      let g ← a.separateWithin fuel rest
      return { g with options := o :: g.options }
    | '-' :: c :: cs => do
      let (os, rest) ← a.letters (c :: cs) rest
      let g ← a.separateWithin fuel rest
      return { g with options := os ++ g.options }
    | _ =>
      if a.leading then .ok ⟨[], argument :: rest⟩
      else do
        let g ← a.separateWithin fuel rest
        return { g with operands := argument :: g.operands }

/-- Set the options of arguments apart. -/
def separate (a : Allowed) (arguments : List String) : Except String Given :=
  a.separateWithin (arguments.length + 1) arguments

end Allowed

/-- Complain in the name of a utility, behind all that it has written. -/
def complain (p : Process) (name text : String) : Act Unit := do
  p.flush
  p.complain (name ++ ": " ++ text)

/-- Complain about arguments. -/
def misuse (p : Process) (name text : String) (status : Nat) : Act Nat := do
  complain p name text
  p.complain ("Try '" ++ name ++ " --help' for more information.")
  return status

/-- A utility that has given options. `status` stands for wrong arguments. -/
def withOptions (a : Allowed) (status : Nat) (run : Process → String → Given → Act Nat) :
    Program :=
  fun p arguments => do
    let name := arguments.headD ""
    match a.separate (arguments.drop 1) with
    | .ok g => run p name g
    | .error text => misuse p name text status

/-- The bytes of a file, or of the input for a hyphen. -/
def content (p : Process) (file : String) : Act (Except Error String) :=
  if file = "-" then p.read 0 none else p.readFile file

/-- Do something with each of some files, and tell whether all went well. -/
def eachFile (files : List String) (f : String → Act Bool) : Act Bool := do
  let mut fine := true
  for file in files do
    let ok ← f file
    fine := fine && ok
  return fine

/-- The files that are to be read: the input if none are given. -/
def orInput (files : List String) : List String := if files.isEmpty then ["-"] else files

/-- The status for whether all went well. -/
def statusOf (fine : Bool) : Nat := if fine then 0 else 1

/-- The lines of a text. -/
def linesOf (text : String) : List String :=
  let lines := (text.toList.splitOn '\n').map String.ofList
  if lines.getLast? == some "" then lines.dropLast else lines

/-- What follows a backslash in place of a character that cannot be shown. -/
def escape (c : Char) : List Char :=
  match c with
  | '\x07' => ['a']
  | '\x08' => ['b']
  | '\t' => ['t']
  | '\n' => ['n']
  | '\x0b' => ['v']
  | '\x0c' => ['f']
  | '\r' => ['r']
  | c =>
    let n := c.toNat
    [n / 64 % 8, n / 8 % 8, n % 8].map Nat.digitChar

/-- Whether a character can be shown. -/
def isVisible (c : Char) : Bool := ' ' ≤ c && c ≤ '~'

/-- A text between apostrophes in which a backslash marks what cannot stand for itself. -/
def marked (text : String) : String :=
  let mark (c : Char) : List Char :=
    if c = '\'' ∨ c = '\\' then ['\\', c]
    else if isVisible c then [c]
    else '\\' :: escape c
  String.ofList ('\'' :: text.toList.flatMap mark ++ ['\''])

/-- What stands for characters between apostrophes; `escaping` tells whether the last
    one could not be shown. -/
def spelled (escaping : Bool) : List Char → List Char
  | [] => []
  | c :: cs =>
    if c = '\'' then ['\'', '\\', '\'', '\''] ++ spelled false cs
    else if isVisible c then (if escaping then ['\'', '\''] else []) ++ c :: spelled false cs
    else (if escaping then [] else ['\'', '$', '\'']) ++ '\\' :: escape c ++ spelled true cs

/-- The characters that have no other meaning in a text between quotation marks. -/
def isPlainQuoted (c : Char) : Bool :=
  c.isAlphanum || c ∈ ['%', '+', ',', '-', '.', '/', ':', ']', '_', '@', ' ', '\'']

/-- A name between apostrophes or quotation marks, as a shell would read it. -/
def shown (name : String) : String :=
  let cs := name.toList
  if '\'' ∉ cs then String.ofList ('\'' :: spelled false cs ++ ['\''])
  else if (cs.drop 1).all isPlainQuoted ∧ cs.head?.all (fun c => isPlainQuoted c || c == '#' || c == '~') then
    "\"" ++ name ++ "\""
  else String.ofList ('\'' :: spelled (!cs.getLast?.all isVisible) cs ++ ['\''])

/-- A name as it stands, unless a shell would not read it as one word or it holds a colon. -/
def shownIfNeeded (name : String) : String :=
  let isSafe (c : Char) : Bool :=
    c.isAlphanum || c ∈ ['_', '.', '/', ',', '@', '%', '+', '-', ']', '\x7b', '\x7d']
  let isLater (c : Char) : Bool := isSafe c || c == '#' || c == '~'
  match name.toList with
  | ['\x7b'] | ['\x7d'] | [] => shown name
  | c :: cs => if isSafe c && cs.all isLater then name else shown name

example : shown "a\n'b" = "'a'$'\\n'\\''b'" ∧ shown "it's" = "\"it's\"" ∧ marked "it's" = "'it\\'s'" := by
  decide

/-- The number that digits spell. -/
def number? (text : String) : Option Nat :=
  if text ≠ "" ∧ text.toList.all Char.isDigit then some (Nat.ofDigitChars 10 text.toList 0) else none

end CompileTree.Shell.Utility
