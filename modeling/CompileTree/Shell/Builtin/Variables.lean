import CompileTree.Shell.Builtin.Arguments

/-! # Commands for variables, arguments and options

Variables are declared, handed on, made fixed and taken away; arguments are set,
shifted and searched for options; lines of the input are read into variables.
-/

namespace CompileTree.Shell.Builtin

open Script Run Text

/-- The name and the value of an argument that is an assignment. -/
def assignment (argument : String) : String × Option String :=
  let cs := argument.toList
  match cs.dropWhile (· ≠ '=') with
  | _ :: value => (String.ofList (cs.takeWhile (· ≠ '=')), some (String.ofList value))
  | [] => (argument, none)

/-- Change a variable, which is declared if it is not there. -/
def declare (name : String) (value : Option String) (change : Variable → Variable) :
    Run Unit := do
  match value with
  | some v => assign name v false
  | none => if !isName name.toList then fault (name ++ ": bad variable name") 2
  modify fun s => s.put (change ((s.find? name).getD ⟨name, none, false, false⟩))

/-- List variables as commands that set them. -/
def list (command : String) (shown : Variable → Bool) : Run Nat := do
  let vs := ((← get).values.filter shown).mergeSort fun a b => !(b.name < a.name)
  for v in vs do
    match v.value with
    | some value => say (command ++ v.name ++ "=" ++ quoted value ++ "\n")
    | none => if command ≠ "" then say (command ++ v.name ++ "\n")
  return 0

/-- Declare variables that are handed on or fixed. -/
def declareAll (command : String) (has : Variable → Bool) (change : Variable → Variable) : Action :=
  fun _ arguments => do
    let (os, names) ← options ['p'] [] arguments
    if os.isEmpty && !names.isEmpty then
      for name in names do
        let (name, value) := assignment name
        declare name value change
      return 0
    else list (command ++ " ") has

/-- Hand variables on to the programs that are called. -/
def exportVariables : Action :=
  declareAll "export" (·.exported) fun v => { v with exported := true }

/-- Keep variables from being changed. -/
def fixVariables : Action :=
  declareAll "readonly" (·.fixed) fun v => { v with fixed := true }

/-- Write an alias as an assignment. -/
def sayAlias (a : String × String) : Run Unit := say (a.1 ++ "=" ++ quoted a.2 ++ "\n")

/-- Set aliases, or list them. -/
def setAliases : Action := fun _ arguments => do
  if arguments.isEmpty then
    for n in List.range 39 do
      for a in (← get).aliases do
        if Variable.rankOf a.1 = n then sayAlias a
    return 0
  let mut status := 0
  for argument in arguments do
    let start := argument.toList.take 1
    match assignment (String.ofList (argument.toList.drop 1)) with
    | (name, some text) =>
      let name := String.ofList start ++ name
      modify fun s =>
        if (s.aliases.lookup name).isSome then
          { s with aliases := s.aliases.map fun a => if a.1 = name then (name, text) else a }
        else { s with aliases := s.aliases ++ [(name, text)] }
    | (_, none) =>
      match (← get).aliases.lookup argument with
      | some text => sayAlias (argument, text)
      | none =>
        perform ((← get).process.complain ("alias: " ++ argument ++ " not found"))
        status := 1
  return status

/-- Take aliases away. -/
def dropAliases : Action := fun _ arguments => do
  let (os, names) ← options ['a'] [] arguments
  if !os.isEmpty then
    modify fun s => { s with aliases := [] }
    return 0
  let mut status := 0
  for name in names do
    if ((← get).aliases.lookup name).isNone then
      perform ((← get).process.complain ("unalias: " ++ name ++ " not found"))
      status := 1
    modify fun s => { s with aliases := s.aliases.filter (·.1 != name) }
  return status

/-- Take variables or functions away. -/
def unset : Action := fun _ arguments => do
  let (os, names) ← options ['f', 'v'] [] arguments
  for name in names do
    if (os.getLast?.map (·.1)) = some 'f' then
      modify fun s => { s with functions := s.functions.filter (·.1 != name) }
    else
      if !isName name.toList then fault (name ++ ": bad variable name") 2
      match (← get).find? name with
      | some v => if v.fixed then fault (name ++ ": is read only") 2
      | none => pure ()
      modify fun s => s.drop name
  return 0

/-- Let the function that is being run have variables of its own. -/
def own : Action := fun _ arguments => do
  if (← get).saved.isEmpty then fault "not in a function" 2
  for name in arguments do
    let (name, value) := assignment name
    save name
    declare name value id
  return 0

/-- The options of the shell by name; those that no letter is for do nothing. -/
def optionNames : List (String × Option Char) := [
  ("errexit", some 'e'), ("noglob", some 'f'), ("ignoreeof", some 'I'), ("interactive", some 'i'),
  ("monitor", some 'm'), ("noexec", some 'n'), ("stdin", some 's'), ("xtrace", some 'x'),
  ("verbose", some 'v'), ("vi", some 'V'), ("emacs", some 'E'), ("noclobber", some 'C'),
  ("allexport", some 'a'), ("notify", some 'b'), ("nounset", some 'u'), ("privileged", some 'p'),
  ("nolog", none), ("debug", none)]

/-- The letters of the options of the shell. -/
def optionLetters : List Char := optionNames.filterMap (·.2)

/-- Turn an option on or off. -/
def turn (on : Bool) (letter : Char) : Run Unit :=
  modify fun s =>
    let others := s.options.filter (· ≠ letter)
    { s with options := if on then letter :: others else others }

/-- Turn an option on or off that is called by name; without a name all are listed. -/
def turnByName (on : Bool) (name : Option String) : Run Unit := do
  match name with
  | some name =>
    match optionNames.lookup name with
    | some (some letter) => turn on letter
    | some none => pure ()
    | none => fault ("Illegal option -o " ++ name) 2
  | none =>
    let s ← get
    if on then say "Current option settings\n"
    for (name, letter) in optionNames do
      let isOn := letter.any s.has
      if on then
        say (name ++ "".pushn ' ' (16 - name.length) ++ (if isOn then "on" else "off") ++ "\n")
      else say ((if isOn then "set -o " else "set +o ") ++ name ++ "\n")

/-- Turn the options on or off that one argument names by their letters. -/
def turnLetters (on : Bool) : List Char → List String → Run (List String)
  | [], rest => return rest
  | 'o' :: cs, rest => do
    turnByName on rest.head?
    turnLetters on cs (rest.drop 1)
  | c :: cs, rest => do
    if c ∉ optionLetters then fault ("Illegal option -" ++ String.singleton c) 2
    turn on c
    turnLetters on cs rest

/-- Set options and arguments of the shell; `fuel` bounds the arguments. -/
def setAll : Nat → List String → Run Unit
  | 0, _ => return
  | _ + 1, [] => return
  | fuel + 1, a :: rest => do
    match a.toList with
    | ['-', '-'] => modify fun s => { s with arguments := rest }
    | ['-'] =>
      turn false 'x'
      turn false 'v'
      if !rest.isEmpty then modify fun s => { s with arguments := rest }
    | '-' :: cs => setAll fuel (← turnLetters true cs rest)
    | '+' :: cs => setAll fuel (← turnLetters false cs rest)
    | _ => modify fun s => { s with arguments := a :: rest }

/-- Set options and arguments of the shell, or list the variables. -/
def set : Action := fun _ arguments => do
  if arguments.isEmpty then
    list "" fun _ => true
  else
    setAll (arguments.length + 1) arguments
    return 0

/-- Drop the first arguments. -/
def shift : Action := fun _ arguments => do
  let n ← match arguments.head? with
    | some a => number a
    | none => pure 1
  if (← get).arguments.length < n then fault "can't shift that many" 2
  modify fun s => { s with arguments := s.arguments.drop n, optionOffset := 0 }
  return 0

/-- What a list of options says about a letter: whether it takes an argument. -/
def takesArgument? (c : Char) : List Char → Option Bool
  | [] => none
  | d :: ':' :: rest => if c = d then some true else takesArgument? c rest
  | d :: rest => if c = d then some false else takesArgument? c rest

/-- Read the next option among arguments. -/
def nextOption : Action := fun _ arguments => do
  match ← noOptions arguments with
  | allowed :: name :: given =>
    let s ← get
    let all := if given.isEmpty then s.arguments else given
    let asked := ((s.value? "OPTIND").bind String.toNat?).getD 1
    let index := if asked = 0 ∨ all.length + 1 < asked then 1 else asked
    let silent := allowed.startsWith ":"
    let finish (c : String) (index offset done : Nat) : Run Nat := do
      assign "OPTIND" (toString index) false
      assign name c false
      modify fun s => { s with optionOffset := offset }
      return done
    let current := ((all[index - 2]?).getD "").toList.drop s.optionOffset
    let continuing := s.optionOffset ≠ 0 && 1 < index && !current.isEmpty
    let fresh : Option (List Char) := match (all[index - 1]?).map String.toList with
      | some ['-', '-'] => none
      | some ('-' :: c :: cs) => some (c :: cs)
      | _ => none
    let ended := match all[index - 1]? with
      | some "--" => index + 1
      | _ => index
    match if continuing then some current else fresh with
    | none => finish "?" ended 0 1
    | some [] => finish "?" index 0 1
    | some (c :: cs) =>
      let index := if continuing then index else index + 1
      let consumed := if continuing then s.optionOffset + 1 else 2
      let offset := if cs.isEmpty then 0 else consumed
      let letter := String.singleton c
      match takesArgument? c allowed.toList with
      | none =>
        if silent then assign "OPTARG" letter false
        else
          perform (s.process.complain ("Illegal option -" ++ letter))
          modify fun s => s.drop "OPTARG"
        finish "?" index offset 0
      | some false =>
        assign "OPTARG" "" false
        finish letter index offset 0
      | some true =>
        match cs, all[index - 1]? with
        | [], none =>
          if silent then
            assign "OPTARG" letter false
            finish ":" index 0 0
          else
            perform (s.process.complain ("No arg for -" ++ letter ++ " option"))
            modify fun s => s.drop "OPTARG"
            finish "?" index 0 0
        | [], some value =>
          assign "OPTARG" value false
          finish letter (index + 1) 0 0
        | cs, _ =>
          assign "OPTARG" (String.ofList cs) false
          finish letter index 0 0
  | _ => fault "Usage: getopts optstring var [arg...]" 2

/-- A line of a text with its characters marked that a backslash takes the meaning of,
    whether it has an end, and how many characters it takes. -/
def markedLine (raw : Bool) : List Char → Marked × Bool × Nat
  | [] => ([], false, 0)
  | ['\\'] => if raw then ([('\\', false)], false, 1) else ([], false, 1)
  | '\n' :: _ => ([], true, 1)
  | '\\' :: c :: cs =>
    if raw then
      let (line, ended, n) := markedLine raw (c :: cs)
      (('\\', false) :: line, ended, n + 1)
    else
      let (line, ended, n) := markedLine raw cs
      (if c = '\n' then line else (c, true) :: line, ended, n + 2)
  | c :: cs =>
    let (line, ended, n) := markedLine raw cs
    ((c, false) :: line, ended, n + 1)

/-- A line shared out among a number of fields; the last one gets all that is left. -/
def share (separators : List Char) : Nat → Marked → List String
  | 0, _ => []
  | count + 1, line =>
    let separates (m : Char × Bool) : Bool := !m.2 && separators.contains m.1
    let isBlank (m : Char × Bool) : Bool :=
      separates m && (m.1 == ' ' || m.1 == '\t' || m.1 == '\n')
    let line := line.dropWhile isBlank
    let field := line.takeWhile (!separates ·)
    let blanks := (line.drop field.length).dropWhile isBlank
    let rest := match blanks with
      | m :: others => if separates m && !isBlank m then others.dropWhile isBlank else blanks
      | [] => []
    let spelled (ms : Marked) : String := String.ofList (ms.map (·.1))
    if count = 0 then
      if rest.isEmpty then [spelled field]
      else [spelled (line.reverse.dropWhile isBlank).reverse]
    else spelled field :: share separators count rest

/-- Read on to the end of a line, which a backslash before it does not end unless the text
    is taken as it is. -/
def readMarked (index : Nat) (raw : Bool) : Nat → String → Run (Option (Marked × Bool))
  | 0, _ => return none
  | fuel + 1, before => do
    match ← perform (System.readLine index 10) with
    | .error _ => return none
    | .ok bytes =>
      let text := before ++ ofBytes bytes
      let (line, ended, _) := markedLine raw text.toList
      if ended || bytes.isEmpty || bytes.data.back? != some 10 then return some (line, ended)
      else readMarked index raw fuel text

/-- Read a line of the input into variables. -/
def read : Action := fun _ arguments => do
  let (os, names) ← options ['r'] ['p'] arguments
  if names.isEmpty then fault "arg count" 2
  let s ← get
  match s.process.descriptors.lookup 0 with
  | none => finish s.separators names [] 1
  | some index =>
    match ← readMarked index (os.any (·.1 == 'r')) System.turnLimit "" with
    | none => finish s.separators names [] 1
    | some (line, ended) => finish s.separators names line (if ended then 0 else 1)
where
  finish (separators : List Char) (names : List String) (line : Marked) (status : Nat) :
      Run Nat := do
    let values := share separators names.length line
    for (name, value) in names.zip values do
      assign name value false
    return status

example : share [' '] 2 [('a', false), (' ', false), ('b', false), (' ', false), ('c', false)] =
    ["a", "b c"] := by decide

end CompileTree.Shell.Builtin
