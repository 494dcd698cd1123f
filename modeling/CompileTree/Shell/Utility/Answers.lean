import CompileTree.Shell.Builtin.Flow
import CompileTree.Shell.Builtin.Output
import CompileTree.Shell.Builtin.Variables
import CompileTree.Shell.Utility.Streams

/-! # Utilities that write texts or answer

Texts are written once or again and again, conditions are answered, and what is known of
the system and its user is told.
-/

namespace CompileTree.Shell.Utility

open Files Text

/-- Write the values of variables. -/
def printValues : Program :=
  withOptions ⟨['0'], [], [("--null", '0')], true⟩ 2 fun p _ g => do
    let lineEnd := if g.has '0' then "\x00" else "\n"
    if g.operands.isEmpty then
      for (n, value) in p.environment do p.say (n ++ "=" ++ value ++ lineEnd)
      return 0
    let fine ← eachFile g.operands fun n => do
      match p.valueOf? n with
      | some value =>
        p.say (value ++ lineEnd)
        return true
      | none => return false
    return statusOf fine

/-- Whether an argument consists of options for writing arguments. -/
def isEchoOption (argument : String) : Bool :=
  match argument.toList with
  | '-' :: c :: cs => (c :: cs).all (· ∈ ['n', 'e', 'E'])
  | _ => false

/-- Write the arguments. -/
def echo : Program := fun p arguments => do
  let arguments := arguments.drop 1
  let letters := (arguments.takeWhile isEchoOption).flatMap String.toList
  let escapes := (letters.reverse.find? fun c => c == 'e' || c == 'E') == some 'e'
  p.say (Formatted.echo escapes (!letters.contains 'n') (arguments.dropWhile isEchoOption))
  return 0

/-- Write the arguments again and again. -/
def yes : Program :=
  withOptions ⟨[], [], [], true⟩ 1 fun p _ g => do
    let line := (if g.operands.isEmpty then "y" else " ".intercalate g.operands) ++ "\n"
    let block := String.join (List.replicate (4096 / line.length + 1) line)
    repeatedly p block System.turnLimit
    return 1
where
  repeatedly (p : Process) (block : String) : Nat → Act Unit
    | 0 => return
    | fuel + 1 => do
      if ← isLost p then return
      p.say block
      repeatedly p block fuel

/-- Write a format. -/
def printf : Program := fun p arguments => do
  let name := arguments.headD ""
  match (arguments.drop 1).dropWhile (· = "--") with
  | [] => misuse p name "missing operand" 1
  | format :: rest =>
    let (text, faults) := Formatted.print .extended format rest
    let mut shown := 0
    for (n, f) in faults do
      p.say (String.ofList ((text.toList.take n).drop shown))
      shown := n
      complain p name (match f with
        | .noNumber a => marked a ++ ": expected a numeric value"
        | .partlyNumber a => marked a ++ ": value not completely converted"
        | .outOfRange a => marked a ++ ": Numerical result out of range"
        | .badDirective d => d ++ ": invalid conversion specification"
        | .missingCharacter => "%: invalid conversion specification")
    p.say (String.ofList (text.toList.drop shown))
    return statusOf faults.isEmpty

/-- Answer a condition. -/
def test : Program := fun p arguments => do
  let name := arguments.headD ""
  let kind := if name.endsWith "[" then "[" else "test"
  match Condition.ofArguments (← get).files p kind (arguments.drop 1) with
  | .ok yes => return statusOf yes
  | .error f =>
    let words := if kind = "[" then (arguments.drop 1).dropLast else arguments.drop 1
    complain p name (match f, words with
      | .missingBracket, _ => "missing ']'"
      | .unexpected .., [_, b] => "missing argument after " ++ marked b
      | .unexpected .., [_, b, _] => marked b ++ ": binary operator expected"
      | .unexpected _ word, _ => "extra argument " ++ marked word
      | .argumentExpected word, _ => "missing argument after " ++ marked word
      | .unclosed, _ => "')' expected"
      | .noNumber word, _ => "invalid integer " ++ marked word)
    return 2

/-- The nanoseconds of an interval: a number of seconds, or of what a letter behind it
    stands for. -/
def interval? (text : String) : Option Nat :=
  let cs := text.toList
  let whole := cs.takeWhile Char.isDigit
  let (decimals, after) := match cs.drop whole.length with
    | '.' :: ds => (ds.takeWhile Char.isDigit, ds.dropWhile Char.isDigit)
    | ds => ([], ds)
  let unit? : Option Nat := match after with
    | [] | ['s'] => some 1
    | ['m'] => some 60
    | ['h'] => some 3600
    | ['d'] => some 86400
    | _ => none
  if whole.isEmpty && decimals.isEmpty then
    if text = "inf" || text = "infinity" then some (Nat.pow 10 30) else none
  else unit?.map fun unit =>
    let digits := (decimals ++ List.replicate 9 '0').take 9
    unit * (Nat.ofDigitChars 10 whole 0 * 1000000000 + Nat.ofDigitChars 10 digits 0)

/-- Wait for a while. -/
def sleep : Program := fun p arguments => do
  let name := arguments.headD ""
  match arguments.drop 1 with
  | [] => misuse p name "missing operand" 1
  | rest =>
    match rest.mapM interval? with
    | some times =>
      let end_ := (← get).clock + times.foldl (· + ·) 0
      Act.waitUntilTime (fun _ => false) end_
      return 0
    | none =>
      match rest.find? fun a => a.startsWith "-" with
      | some a =>
        let letter := String.ofList ((a.toList.drop 1).take 1)
        misuse p name ("invalid option -- " ++ marked letter) 1
      | none =>
        for a in rest do
          if (interval? a).isNone then complain p name ("invalid time interval " ++ marked a)
        p.complain ("Try '" ++ name ++ " --help' for more information.")
        return 1

/-- Write where programs are found. -/
def which : Program := fun p arguments => do
  let words := arguments.drop 1
  let switches := words.takeWhile fun w => w.startsWith "-" && w ≠ "--" && w ≠ "-"
  match switches.find? fun w => !(w.toList.drop 1).all (· ∈ ['a', 's']) with
  | some bad =>
    let letter := ((bad.toList.drop 1).find? (· ∉ ['a', 's'])).getD '-'
    p.complain ("Illegal option -" ++ String.singleton letter)
    p.say ("Usage: " ++ arguments.headD "" ++ " [-as] args\n")
    return 2
  | none =>
    let letters := switches.flatMap fun w => w.toList.drop 1
    let names := (words.drop switches.length).dropWhile (· = "--")
    if names.isEmpty then return 1
    let t := (← get).files
    let fine ← eachFile names fun name => do
      let all := if '/' ∈ name.toList then [name] else Call.candidates (p.valueOf? "PATH") name
      let found := all.filter (Call.mayRun t p)
      let shown := if letters.contains 'a' then found else found.take 1
      if !letters.contains 's' then
        for path in shown do p.say (path ++ "\n")
      return !found.isEmpty
    return statusOf fine

/-- What is known of the system, by the letters that ask for it. -/
def systemFacts : List (Char × String) := [
  ('s', "Linux"), ('n', "localhost"), ('r', "6.1.0"), ('v', "#1 SMP PREEMPT_DYNAMIC"),
  ('m', "x86_64"), ('p', "unknown"), ('i', "unknown"), ('o', "GNU/Linux")]

/-- Tell what is known of the system. -/
def tellSystem : Program :=
  withOptions ⟨['a', 's', 'n', 'r', 'v', 'm', 'p', 'i', 'o'], [],
      [("--all", 'a'), ("--kernel-name", 's'), ("--nodename", 'n'), ("--kernel-release", 'r'),
        ("--kernel-version", 'v'), ("--machine", 'm'), ("--processor", 'p'),
        ("--hardware-platform", 'i'), ("--operating-system", 'o')], false⟩ 1 fun p name g => do
    if let some extra := g.operands.head? then
      return ← misuse p name ("extra operand " ++ marked extra) 1
    let isAsked (c : Char) (text : String) : Bool :=
      if g.options.isEmpty then c == 's' else g.has c || (g.has 'a' && text ≠ "unknown")
    let all := systemFacts.filter fun (c, text) => isAsked c text
    p.say (" ".intercalate (all.map (·.2)) ++ "\n")
    return 0

/-- Tell what kind of machine there is. -/
def tellMachine : Program :=
  withOptions ⟨[], [], [], false⟩ 1 fun p _ _ => do
    p.say "x86_64\n"
    return 0

/-- Tell the name of the machine. -/
def tellHost : Program := fun p _ => do
  p.say "localhost\n"
  return 0

/-- Tell if the input is a terminal, which it is not. -/
def tellTerminal : Program :=
  withOptions ⟨['s'], [], [("--silent", 's'), ("--quiet", 's')], false⟩ 2 fun p name g => do
    if let some extra := g.operands.head? then
      return ← misuse p name ("extra operand " ++ marked extra) 2
    if !g.has 's' then p.say "not a tty\n"
    return 1

/-- Tell who the user is. -/
def tellUser : Program :=
  withOptions ⟨['u', 'g', 'G', 'n', 'r', 'z', 'a'], [],
      [("--user", 'u'), ("--group", 'g'), ("--groups", 'G'), ("--name", 'n'), ("--real", 'r'),
        ("--zero", 'z')], false⟩ 1 fun p name g => do
    if let some who := g.operands.find? (· ∉ ["root", "0"]) then
      complain p name (marked who ++ ": no such user")
      return 1
    if g.has 'u' || g.has 'g' || g.has 'G' then
      p.say ((if g.has 'n' then "root" else "0") ++ String.singleton (lineEndFor (g.has 'z')))
    else if g.has 'n' || g.has 'r' then
      complain p name "cannot print only names or real IDs in default format"
      return 1
    else p.say "uid=0(root) gid=0(root) groups=0(root)\n"
    return 0

/-- Tell the name of the user. -/
def tellUserName : Program :=
  withOptions ⟨[], [], [], false⟩ 1 fun p name g => do
    if let some extra := g.operands.head? then
      return ← misuse p name ("extra operand " ++ marked extra) 1
    p.say "root\n"
    return 0

/-- Tell the groups of users. -/
def tellGroups : Program := fun p arguments => do
  match arguments.drop 1 with
  | [] =>
    p.say "root\n"
    return 0
  | users =>
    let fine ← eachFile users fun who => do
      if who = "root" then
        p.say "root : root\n"
        return true
      complain p (arguments.headD "") (marked who ++ ": no such user")
      return false
    return statusOf fine

/-- Tell how many processors there are. -/
def tellProcessors : Program := fun p _ => do
  p.say "1\n"
  return 0

/-- Do nothing: all that is written is there at once. -/
def settleFiles : Program := fun _ _ => return 0

/-- What a text says of the options that are sought: a letter or a name with how many colons
    follow it. -/
structure OptionRules where
  letters : List (Char × Nat)
  names : List (String × Nat)
  /-- Whether options only count before all other arguments, and whether these keep their
      places among the options. -/
  leading : Bool
  inOrder : Bool
  alternative : Bool

namespace OptionRules

/-- The letters that a text spells, with how many colons follow each. -/
def lettersOf : List Char → List (Char × Nat)
  | [] => []
  | c :: ':' :: ':' :: cs => (c, 2) :: lettersOf cs
  | c :: ':' :: cs => (c, 1) :: lettersOf cs
  | c :: cs => (c, 0) :: lettersOf cs

/-- The name that a text spells, with how many colons follow it. -/
def nameOf (text : String) : String × Nat :=
  let cs := text.toList.reverse
  let colons := (cs.takeWhile (· == ':')).length
  (String.ofList (cs.drop colons).reverse, colons)

/-- What is found in arguments. -/
structure Outcome where
  options : List String
  operands : List String
  faults : List String

/-- A word between apostrophes. -/
def quoted (text : String) : String :=
  "'" ++ String.ofList (text.toList.flatMap fun c => if c = '\'' then "'\\''".toList else [c]) ++ "'"

/-- Look for options; `fuel` bounds how many arguments and letters there are. -/
def seek (r : OptionRules) (show_ : String → String) : Nat → List String → Outcome
  | 0, rest => ⟨[], rest, []⟩
  | _, [] => ⟨[], [], []⟩
  | fuel + 1, a :: rest =>
    let add (os fs : List String) (o : Outcome) : Outcome :=
      { o with options := os ++ o.options, faults := fs ++ o.faults }
    let long (body : String) : Option Outcome :=
      let cs := body.toList
      let name := String.ofList (cs.takeWhile (· ≠ '='))
      let value := cs.dropWhile (· ≠ '=')
      let fits := r.names.filter fun n => n.1.startsWith name
      let found := match r.names.find? (·.1 == name), fits with
        | some n, _ => some n
        | none, [n] => some n
        | none, _ => none
      match found, fits with
      | none, [] => none
      | none, _ => some (add [] ["option '" ++ a ++ "' is ambiguous"] (seek r show_ fuel rest))
      | some (full, colons), _ =>
        match colons, value, rest with
        | 0, [], rest => some (add ["--" ++ full] [] (seek r show_ fuel rest))
        | 0, _, rest =>
          some (add [] ["option '--" ++ full ++ "' doesn't allow an argument"] (seek r show_ fuel rest))
        | _, _ :: value, rest =>
          some (add ["--" ++ full, show_ (String.ofList value)] [] (seek r show_ fuel rest))
        | 1, [], v :: rest => some (add ["--" ++ full, show_ v] [] (seek r show_ fuel rest))
        | 1, [], [] => some ⟨[], [], ["option '--" ++ full ++ "' requires an argument"]⟩
        | _, [], rest => some (add ["--" ++ full, show_ ""] [] (seek r show_ fuel rest))
    let operand : Outcome :=
      if r.leading then ⟨[], a :: rest, []⟩
      else
        let o := seek r show_ fuel rest
        if r.inOrder then { o with options := show_ a :: o.options }
        else { o with operands := a :: o.operands }
    match a.toList with
    | ['-', '-'] => ⟨[], rest, []⟩
    | '-' :: '-' :: body =>
      (long (String.ofList body)).getD
        (add [] ["unrecognized option '" ++ a ++ "'"] (seek r show_ fuel rest))
    | '-' :: c :: cs =>
      match if r.alternative then long (String.ofList (c :: cs)) else none with
      | some o => o
      | none =>
        match r.letters.lookup c, cs, rest with
        | none, [], rest =>
          add [] ["invalid option -- '" ++ String.singleton c ++ "'"] (seek r show_ fuel rest)
        | none, cs, rest =>
          add [] ["invalid option -- '" ++ String.singleton c ++ "'"]
            (seek r show_ fuel (String.ofList ('-' :: cs) :: rest))
        | some 0, [], rest => add ["-" ++ String.singleton c] [] (seek r show_ fuel rest)
        | some 0, cs, rest =>
          add ["-" ++ String.singleton c] [] (seek r show_ fuel (String.ofList ('-' :: cs) :: rest))
        | some 1, [], v :: rest =>
          add ["-" ++ String.singleton c, show_ v] [] (seek r show_ fuel rest)
        | some 1, [], [] =>
          ⟨[], [], ["option requires an argument -- '" ++ String.singleton c ++ "'"]⟩
        | some _, cs, rest =>
          add ["-" ++ String.singleton c, show_ (String.ofList cs)] [] (seek r show_ fuel rest)
    | _ => operand

end OptionRules

/-- Put the options of arguments in front, for scripts. -/
def sortOptions : Program := fun p arguments => do
  let name := arguments.headD ""
  let run (options : String) (names : List String) (title : String) (quiet silent plain : Bool)
      (alternative : Bool) (given : List String) : Act Nat := do
    let mark := options.toList.head?
    let body := if mark == some '+' || mark == some '-' then options.toList.drop 1 else options.toList
    let r : OptionRules := {
      letters := OptionRules.lettersOf body, names := names.map OptionRules.nameOf
      leading := mark == some '+' || (p.valueOf? "POSIXLY_CORRECT").isSome, inOrder := mark == some '-'
      alternative }
    let show_ (text : String) : String := if plain then text else OptionRules.quoted text
    let size := given.foldl (fun n a => n + a.length + 1) 1
    let o := r.seek show_ size given
    if !quiet then
      for f in o.faults do complain p title f
    if !silent then
      p.say (String.join ((o.options ++ "--" :: o.operands.map show_).map (" " ++ ·)) ++ "\n")
    return statusOf o.faults.isEmpty
  match arguments.drop 1 with
  | [] =>
    complain p name "missing optstring argument"
    p.complain ("Try '" ++ name ++ " --help' for more information.")
    return 2
  | first :: rest =>
    if !first.startsWith "-" then
      let given := if rest.head? == some "--" then rest.drop 1 else rest
      return ← run first [] name false false true false given
    match (⟨['a', 'q', 'Q', 'T', 'u', 'V'], ['o', 'l', 'n', 's'],
        [("--alternative", 'a'), ("--options", 'o'), ("--longoptions", 'l'), ("--name", 'n'),
          ("--quiet", 'q'), ("--quiet-output", 'Q'), ("--shell", 's'), ("--test", 'T'),
          ("--unquoted", 'u')], true⟩ : Allowed).separate (first :: rest) with
    | .error text => misuse p name text 2
    | .ok g =>
      if g.has 'T' then return 4
      match g.valueOf? 'o', g.operands with
      | none, [] => misuse p name "missing optstring argument" 2
      | given, operands =>
        let (options, operands) := match given with
          | some o => (o, operands)
          | none => (operands.headD "", operands.drop 1)
        let operands := if given.isNone && operands.head? == some "--" then operands.drop 1 else operands
        let names := ((g.options.filter (·.1 == 'l')).flatMap fun o =>
          (o.2.toList.splitOnP fun c => c = ',' || c = ' ')).filter (!·.isEmpty)
        run options (names.map String.ofList) ((g.valueOf? 'n').getD name) (g.has 'q') (g.has 'Q')
          (g.has 'u') (g.has 'a') operands

end CompileTree.Shell.Utility
