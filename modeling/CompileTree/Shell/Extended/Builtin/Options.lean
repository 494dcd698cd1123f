import CompileTree.Shell.Builtin.Variables
import CompileTree.Shell.Extended.Builtin.Arguments

/-! # Commands for options and arguments

Options of the shell are turned on and off and listed; arguments are set, shifted and
searched for options.
-/

namespace CompileTree.Shell.Extended.Builtin

open Step

/-- Turn an option on or off. -/
def turn (on : Bool) (name : String) : Step Unit :=
  let twin := if name = "interactive-comments" then some "interactive_comments" else none
  let with_ (names : List String) (name : String) : List String :=
    let others := names.filter (· ≠ name)
    if on then name :: others else others
  modify fun s => { s with
    options := with_ s.options name
    extras := twin.elim s.extras (with_ s.extras) }

/-- Turn a further option on or off. -/
def turnExtra (on : Bool) (name : String) : Step Unit := do
  modify fun s =>
    let others := s.extras.filter (· ≠ name)
    { s with extras := if on then name :: others else others }
  if name = "interactive_comments" then turn on "interactive-comments"

/-- A line of a list of options. -/
def optionLine (name : String) (isOn : Bool) : String :=
  Progress.filled 15 name ++ "\t" ++ (if isOn then "on" else "off") ++ "\n"

/-- A command that turns an option on or off. -/
def optionCommand (name : String) (isOn : Bool) : String :=
  (if isOn then "set -o " else "set +o ") ++ name ++ "\n"

/-- List the options, as commands if they are not to be turned on. -/
def listOptions (on : Bool) : Step Unit := do
  let s ← get
  for (name, _) in optionNames do
    say ((if on then optionLine else optionCommand) name (s.has name))

/-- Turn the options on or off that one argument names by their letters; what is left of the
    arguments is returned, or a status if something is wrong. -/
def turnLetters (on : Bool) : List Char → List String → Step (Except Nat (List String))
  | [], rest => return .ok rest
  | 'o' :: cs, rest => do
    match rest with
    | [] =>
      listOptions on
      turnLetters on cs []
    | name :: rest =>
      if optionNames.any (·.1 == name) then
        turn on name
        turnLetters on cs rest
      else
        complain (name ++ ": invalid option name")
        return .error 2
  | c :: cs, rest => do
    match optionNames.find? (·.2 == some c) with
    | some (name, _) =>
      turn on name
      turnLetters on cs rest
    | none =>
      complain (String.ofList [if on then '-' else '+', c] ++ ": invalid option")
      return .error (← usage)

/-- Set the arguments of the shell. -/
def setArguments (arguments : List String) : Step Nat := do
  modify fun s => { s with arguments }
  return 0

/-- Set options and arguments of the shell; `fuel` bounds the arguments. -/
def setAll : Nat → List String → Step Nat
  | 0, _ | _, [] => return 0
  | fuel + 1, a :: rest => do
    match a.toList with
    | ['-', '-'] => setArguments rest
    | ['-'] =>
      turn false "xtrace"
      turn false "verbose"
      if rest.isEmpty then return 0 else setArguments rest
    | '-' :: cs => next fuel (← turnLetters true cs rest)
    | '+' :: c :: cs => next fuel (← turnLetters false (c :: cs) rest)
    | _ => setArguments (a :: rest)
where
  next (fuel : Nat) : Except Nat (List String) → Step Nat
    | .ok rest => setAll fuel rest
    | .error status => return status

/-- A variable as it is listed among all. -/
def listedVariable (v : Variable) : Option String :=
  match v.content with
  | .nothing => none
  | .text value => some (v.name ++ "=" ++ Quoting.listed value ++ "\n")
  | c => some (v.name ++ "=(" ++ Expansion.declaredElements c ++ ")\n")

/-- The variables by name. -/
def sortedVariables : Step (List Variable) := do
  let s ← get
  let clock := (← getThe System).clock
  let now (v : Variable) : Variable := (Values.telling? s clock v.name).elim v fun content =>
    { v with content }
  return (s.visible.map now).mergeSort fun a b => !(b.name < a.name)

/-- The functions by name. -/
def sortedFunctions : Step (List Function) := do
  return (← get).functions.mergeSort fun a b => !(b.name < a.name)

/-- List all variables and functions. -/
def listAll : Step Nat := do
  for v in ← sortedVariables do say ((listedVariable v).getD "")
  for f in ← sortedFunctions do say (Printing.function f.name f.body ++ "\n")
  return 0

/-- Set options and arguments of the shell, or list the variables. -/
def set : Action := fun _ arguments =>
  if arguments.isEmpty then listAll else setAll (arguments.length + 1) arguments

/-- Turn further options on or off, or list them. -/
def shopt : Action := fun _ arguments =>
  withOptions ['o', 'p', 'q', 's', 'u'] [] arguments fun os names => do
    let on := has os 's'
    let off := has os 'u'
    if on && off then return ← refuse "cannot set and unset shell options simultaneously"
    let isBasic := has os 'o'
    let known := if isBasic then optionNames.map (·.1) else extraNames
    let isOn (name : String) : Step Bool := do
      let s ← get
      return if isBasic then s.has name else s.hasExtra name
    let line (name : String) (yes : Bool) : String :=
      if has os 'p' then
        if isBasic then optionCommand name yes
        else (if yes then "shopt -s " else "shopt -u ") ++ name ++ "\n"
      else optionLine name yes
    if names.isEmpty then
      for name in known do
        let yes ← isOn name
        if (!on && !off) || yes == on then
          if !has os 'q' then say (line name yes)
      return 0
    let mut status := 0
    for name in names do
      if !known.contains name then
        status ← refuse (name ++ ": invalid " ++ (if isBasic then "" else "shell ") ++ "option name")
      else if on || off then
        if isBasic then turn on name else turnExtra on name
      else
        let yes ← isOn name
        if !yes then status := 1
        if !has os 'q' then say (line name yes)
    return status

/-- Drop the first arguments. -/
def shift : Action := fun _ arguments => do
  let arguments := match arguments with
    | "--" :: rest => rest
    | all => all
  match arguments.head?.map fun a => (a, integer? a) with
  | some (a, none) => refuse (a ++ ": numeric argument required")
  | given =>
    let n := (given.bind (·.2)).getD 1
    if 1 < arguments.length then
      discard "too many arguments"
    else if n < 0 then refuse (toString n ++ ": shift count out of range")
    else if (← get).arguments.length < n then
      if (← get).hasExtra "shift_verbose" then
        complain (toString n ++ ": shift count out of range")
      return 1
    else
      modify fun s => { s with arguments := s.arguments.drop n.toNat }
      return 0

/-- Read the next option among arguments. -/
def nextOption : Action := fun _ arguments =>
  withOptions [] [] arguments fun _ rest => do
    match rest with
    | allowed :: name :: given =>
      if Script.isName name.toList then step allowed name given
      else refuse ("\x60" ++ name ++ "': not a valid identifier")
    | _ => usage
where
  step (allowed name : String) (given : List String) : Step Nat := do
    let s ← get
    let all := if given.isEmpty then s.arguments else given
    let asked := Script.Reader.digitsValue (((s.text? "OPTIND").getD "1").toList.takeWhile Char.isDigit)
    let index := if asked = 0 then 1 else asked
    let silent := allowed.startsWith ":"
    let quiet := silent || s.text? "OPTERR" == some "0"
    let finish (c : String) (index offset done : Nat) : Step Nat := do
      Values.setText "OPTIND" (toString index)
      modify fun s => { s with optionOffset := offset }
      Values.setText name c
      return done
    let missing (text letter : String) : Step Unit :=
      if quiet then return
      else do perform (s.process.complain (s.name ++ ": " ++ text ++ " -- " ++ letter))
    modify fun s => s.drop "OPTARG"
    let current := (all[index - 1]?).map String.toList
    let left : Option (List Char) := match current, s.optionOffset with
      | some ['-', '-'], 0 => none
      | some ('-' :: c :: cs), 0 => some (c :: cs)
      | some cs, offset => if offset = 0 then none else some (cs.drop offset)
      | none, _ => none
    match left with
    | none | some [] =>
      finish "?" (if current = some ['-', '-'] then index + 1 else index) 0 1
    | some (c :: cs) =>
      let consumed := (current.map List.length).getD 0 - cs.length
      let (next, offset) := if cs.isEmpty then (index + 1, 0) else (index, consumed)
      let letter := String.singleton c
      let known := if c = ':' then none
        else Shell.Builtin.takesArgument? c (if silent then allowed.toList.drop 1 else allowed.toList)
      match known with
      | none =>
        missing "illegal option" letter
        if silent then Values.setText "OPTARG" letter
        finish "?" next offset 0
      | some false => finish letter next offset 0
      | some true =>
        match cs, all[index]? with
        | [], none =>
          missing "option requires an argument" letter
          if silent then Values.setText "OPTARG" letter
          finish (if silent then ":" else "?") (index + 1) 0 0
        | [], some value =>
          Values.setText "OPTARG" value
          finish letter (index + 2) 0 0
        | cs, _ =>
          Values.setText "OPTARG" (String.ofList cs)
          finish letter (index + 1) 0 0

end CompileTree.Shell.Extended.Builtin
