import CompileTree.Path

/-! # The grammar of command lines

A command line names a command, after the command that it belongs to if there is
one, and options and words may be given on every level. An option is written
with its name or its letter; its value is attached or is the next argument.
Behind two hyphens all arguments are words. On every level the version of the
command may be asked for, and then nothing that follows counts.
-/

/-! ## Values on a command line

The texts that stand for values, and what they stand for.
-/

namespace CompileTree.CommandLine

/-- The value of a switch that is given. -/
def switchedOn : String := "true"

/-- A path; the empty text is none. -/
def readPath (text : String) : Option Path := if text = "" then none else some ⟨text⟩

/-- A number that fits into 64 bits; a plus sign before it does not count. -/
def readNumber (text : String) : Option Nat :=
  let digits := match text.toList with
    | '+' :: cs => cs
    | cs => cs
  if digits ≠ [] ∧ digits.all Char.isDigit then
    let n := Nat.ofDigitChars 10 digits 0
    if n < UInt64.size then some n else none
  else none

/-- Whether a switch is on. -/
def readSwitch (text : String) : Option Bool :=
  if text = switchedOn then some true else if text = "false" then some false else none

/-- The kinds of values. -/
inductive ValueKind where
  | text
  | path
  | number
  | switch
  deriving DecidableEq, Repr

/-- Whether a text stands for a value of a kind. -/
def ValueKind.accepts (text : String) : ValueKind → Bool
  | .text => true
  | .path => (readPath text).isSome
  | .number => (readNumber text).isSome
  | .switch => (readSwitch text).isSome

/-! ## Options and levels -/

/-- An option. -/
structure OptionForm where
  name : String
  letter : Option Char
  /-- What value the option takes; a switch takes none. -/
  kind : ValueKind
  /-- The variable that stands in for the option. -/
  variableName : Option String
  deriving DecidableEq, Repr

/-- What may stand on a level of a command line: options, words of given kinds,
    and the commands of the next level, one of which has to follow if there are any. -/
inductive Grammar where
  | level (options : List OptionForm) (words : List ValueKind) (commands : List (String × Grammar))

/-- Why arguments give no levels. -/
inductive Stop where
  /-- They do not follow the grammar. -/
  | misuse
  /-- They ask for the version of a command, which is named after those that it
      belongs to. -/
  | version (commands : List String)
  deriving DecidableEq, Repr

/-- What stands on a level of a command line. -/
structure Level where
  /-- The command that starts the level. -/
  command : String
  /-- The options by their names. -/
  options : List (String × String)
  words : List String
  /-- The option whose value was the last argument. It counts as given when the
      level goes on or when all is read. -/
  unread : Option (OptionForm × String)
  deriving DecidableEq, Repr

/-- An option as an argument gives it; where it has no value yet, the next
    argument is the value. -/
inductive Use where
  | option (form : OptionForm) (value : Option String)
  /-- The version is asked for. -/
  | version
  deriving DecidableEq, Repr

/-- The name of the option that asks for the version. -/
def versionName : String := "version"

/-- The letter of the option that asks for the version. -/
def versionLetter : Char := 'V'

/-- The value that is attached to a letter; an equals sign before it does not count. -/
def attached : List Char → Option String
  | [] => none
  | '=' :: cs => some (String.ofList cs)
  | cs => some (String.ofList cs)

/-- The options that an argument of letters gives, with none for a letter that is
    not known, after which there are no others. The first one that takes a value
    takes all that follows. -/
def lettersUses (options : List OptionForm) : List Char → List (Option Use)
  | [] => []
  | c :: cs =>
    if c = versionLetter then [some .version]
    else
      match options.find? (·.letter == some c) with
      | none => [none]
      | some o =>
        if o.kind = .switch then some (.option o switchedOn) :: lettersUses options cs
        else [some (.option o (attached cs))]

/-- The option that an argument with a name gives. -/
def nameUse (options : List OptionForm) (cs : List Char) : Option Use :=
  let name := String.ofList (cs.takeWhile (· ≠ '='))
  match options.find? (·.name == name), cs.dropWhile (· ≠ '=') with
  | none, [] => if name = versionName then some .version else none
  | none, _ => none
  | some o, [] => some (.option o (if o.kind = .switch then some switchedOn else none))
  | some o, _ :: value => if o.kind = .switch then none else some (.option o (String.ofList value))

/-- An argument by what it looks like. -/
inductive Argument where
  /-- Two hyphens. -/
  | rest
  | named (cs : List Char)
  | letters (cs : List Char)
  | word
  deriving DecidableEq, Repr

/-- What an argument looks like; a hyphen alone is a word. -/
def Argument.ofChars : List Char → Argument
  | ['-', '-'] => .rest
  | '-' :: '-' :: cs => .named cs
  | ['-'] => .word
  | '-' :: cs => .letters cs
  | _ => .word

namespace Level

/-- A level on which nothing is given yet. -/
def start (command : String) : Level := ⟨command, [], [], none⟩

/-- Give one more option, each of which may be given once. -/
def give (l : Level) (o : OptionForm) (value : String) : Except Stop Level :=
  if o.kind.accepts value ∧ l.options.lookup o.name = none then
    .ok { l with options := l.options ++ [(o.name, value)] }
  else .error .misuse

/-- Give the option that is unread. -/
def settle (l : Level) : Except Stop Level :=
  match l.unread with
  | none => .ok l
  | some (o, value) => { l with unread := none }.give o value

/-- Give the options of an argument; the one that awaits its value is returned. -/
def giveAll (l : Level) : List (Option Use) → Except Stop (Level × Option OptionForm)
  | [] => .ok (l, none)
  | none :: _ => .error .misuse
  | some .version :: _ => l.settle.bind fun l => .error (.version [l.command])
  | some (.option o none) :: _ => l.settle.bind fun l => .ok (l, some o)
  | some (.option o (some value)) :: rest =>
    l.settle.bind fun l => (l.give o value).bind fun l => l.giveAll rest

/-- Add words of given kinds. -/
def addWords (l : Level) (kinds : List ValueKind) (words : List String) : Except Stop Level := do
  let l ← l.settle
  let all := l.words ++ words
  if all.length ≤ kinds.length ∧ (all.zip kinds).all fun (w, kind) => kind.accepts w then
    return { l with words := all }
  else throw .misuse

/-- The option's value on a level. -/
def value? (l : Level) (name : String) : Option String := l.options.lookup name

end Level

/-- Name the command of an outer level before the commands whose version is asked for. -/
def Stop.below (command : String) : Stop → Stop
  | .misuse => .misuse
  | .version commands => .version (command :: commands)

/-- The levels that arguments give, from the one on; `awaiting` is the option
    whose value is next. -/
def levelsFrom (g : Grammar) (l : Level) (awaiting : Option OptionForm) :
    List String → Except Stop (List Level)
  | [] =>
    match g, awaiting with
    | .level _ _ [], none => l.settle.map ([·])
    | _, _ => .error .misuse
  | argument :: rest =>
    match g, awaiting, Argument.ofChars argument.toList with
    | g, some o, .word => levelsFrom g { l with unread := some (o, argument) } none rest
    | _, some _, _ => .error .misuse
    | .level _ words [], none, .rest => (l.addWords words rest).map ([·])
    | .level .., none, .rest => .error .misuse
    | .level options words commands, none, .named cs =>
      (l.giveAll [nameUse options cs]).bind fun (l, awaiting) =>
        levelsFrom (.level options words commands) l awaiting rest
    | .level options words commands, none, .letters cs =>
      (l.giveAll (lettersUses options cs)).bind fun (l, awaiting) =>
        levelsFrom (.level options words commands) l awaiting rest
    | .level options words commands, none, .word =>
      match commands.lookup argument with
      | some next => do
        let inner ← (levelsFrom next (.start argument) none rest).mapError (·.below l.command)
        return (← l.settle) :: inner
      | none =>
        (l.addWords words [argument]).bind fun l =>
          levelsFrom (.level options words commands) l none rest

/-- The levels of a command line of a program, the outermost first. -/
def levels (program : String) (g : Grammar) (arguments : List String) : Except Stop (List Level) :=
  levelsFrom g (.start program) none arguments

/-- The value of an option, `some none` if it has none. The innermost level that
    gives the option wins, and the variable stands in on levels that do not; a
    value that cannot be read is an error on every level. -/
def OptionForm.value? {α : Type} (o : OptionForm) (read : String → Option α)
    (environment : String → Option String) (levels : List Level) : Option (Option α) := do
  let given := levels.map (·.value? o.name)
  let spoken := given.filterMap id
  let standIn := o.variableName.bind environment
  let inUse := if given.any (·.isNone) then spoken ++ standIn.toList else spoken
  let _ ← inUse.mapM read
  return (spoken.getLast? <|> standIn).bind read

end CompileTree.CommandLine
