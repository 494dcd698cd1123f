import CompileTree.Shell.Extended.Conditions
import CompileTree.Shell.Extended.Redirecting

/-! # Arguments of commands of the extended shell

Their options, the numbers among their arguments, and what is told where they are wrong.
-/

namespace CompileTree.Shell.Extended.Builtin

open Step

/-- A command of the language, given its arguments. -/
abbrev Action := Runner → List String → Step Nat

/-- How commands of the language are used. -/
def usages : List (String × String) := [
  (".", ". filename [arguments]"), ("source", "source filename [arguments]"),
  ("export", "export [-fn] [name[=value] ...] or export -p"),
  ("local", "local [option] name[=value] ..."),
  ("declare", "declare [-aAfFgiIlnrtux] [name[=value] ...] or declare -p [-aAfFilnrtux] [name ...]"),
  ("typeset", "typeset [-aAfFgiIlnrtux] name[=value] ... or typeset -p [-aAfFilnrtux] [name ...]"),
  ("readonly", "readonly [-aAf] [name[=value] ...] or readonly -p"),
  ("set", "set [-abefhkmnptuvxBCEHPT] [-o option-name] [--] [-] [arg ...]"),
  ("shopt", "shopt [-pqsu] [-o] [optname ...]"),
  ("trap", "trap [-lp] [[arg] signal_spec ...]"),
  ("unset", "unset [-f] [-v] [-n] [name ...]"),
  ("printf", "printf [-v var] format [arguments]"),
  ("cd", "cd [-L|[-P [-e]] [-@]] [dir]"), ("pwd", "pwd [-LP]"),
  ("pushd", "pushd [-n] [+N | -N | dir]"), ("popd", "popd [-n] [+N | -N]"),
  ("dirs", "dirs [-clpv] [+N] [-N]"), ("umask", "umask [-p] [-S] [mode]"),
  ("getopts", "getopts optstring name [arg ...]"),
  ("read", "read [-ers] [-a array] [-d delim] [-i text] [-n nchars] [-N nchars] " ++
    "[-p prompt] [-t timeout] [-u fd] [name ...]"),
  ("mapfile", "mapfile [-d delim] [-n count] [-O origin] [-s count] [-t] [-u fd] " ++
    "[-C callback] [-c quantum] [array]"),
  ("readarray", "readarray [-d delim] [-n count] [-O origin] [-s count] [-t] [-u fd] " ++
    "[-C callback] [-c quantum] [array]"),
  ("kill", "kill [-s sigspec | -n signum | -sigspec] pid | jobspec ... or kill -l [sigspec]"),
  ("wait", "wait [-fn] [-p var] [id ...]"), ("type", "type [-afptP] name [name ...]"),
  ("command", "command [-pVv] command [arg ...]"),
  ("builtin", "builtin [shell-builtin [arg ...]]"),
  ("alias", "alias [-p] [name[=value] ... ]"), ("unalias", "unalias [-a] name [name ...]"),
  ("hash", "hash [-lr] [-p pathname] [-dt] [name ...]"),
  ("jobs", "jobs [-lnprs] [jobspec ...] or jobs -x command [args]"),
  ("disown", "disown [-h] [-ar] [jobspec ... | pid ...]"),
  ("ulimit", "ulimit [-SHabcdefiklmnpqrstuvxPRT] [limit]"),
  ("exec", "exec [-cl] [-a name] [command [argument ...]] [redirection ...]"),
  ("compgen", "compgen [-abcdefgjksuv] [-o option] [-A action] [-G globpat] [-W wordlist] " ++
    "[-F function] [-C command] [-X filterpat] [-P prefix] [-S suffix] [word]"),
  ("help", "help [-dms] [pattern ...]"),
  ("enable", "enable [-a] [-dnps] [-f filename] [name ...]"),
  ("caller", "caller [expr]"), ("times", "times"), ("eval", "eval [arg ...]"),
  ("let", "let arg [arg ...]"), ("shift", "shift [n]"), ("exit", "exit [n]"),
  ("return", "return [n]")]

/-- Tell how the command is used. -/
def usage : Step Nat := do
  let s ← get
  let name := s.command.getD ""
  match usages.lookup name with
  | some text => perform (s.process.complain (name ++ ": usage: " ++ text))
  | none => pure ()
  return 2

/-- Tell what is wrong. -/
def refuse (text : String) : Step Nat := do
  complain text
  return 1

/-- Options with their values, and the arguments behind them. -/
abbrev Given := List (Char × String) × List String

/-- The options at the start of arguments, with the arguments behind them. An option that is
    in the second list takes an argument itself. -/
def options? (plain valued : List Char) : Nat → List String → Except String Builtin.Given
  | 0, rest => .ok ([], rest)
  | _ + 1, [] => .ok ([], [])
  | fuel + 1, a :: rest =>
    match a.toList with
    | ['-', '-'] => .ok ([], rest)
    | '-' :: c :: cs => do
      let (os, rest) ← letters (c :: cs) rest
      let (more, rest) ← options? plain valued fuel rest
      return (os ++ more, rest)
    | _ => .ok ([], a :: rest)
where
  letters : List Char → List String → Except String Builtin.Given
    | [], rest => .ok ([], rest)
    | c :: cs, rest => do
      if c ∈ plain then
        let (os, rest) ← letters cs rest
        return ((c, "") :: os, rest)
      else if c ∈ valued then
        match cs, rest with
        | [], [] => throw (String.ofList ['-', c] ++ ": option requires an argument")
        | [], value :: rest => return ([(c, value)], rest)
        | cs, rest => return ([(c, String.ofList cs)], rest)
      else throw (String.ofList ['-', c] ++ ": invalid option")

/-- Do something with the options at the start of arguments and the arguments behind them. -/
def withOptions (plain valued : List Char) (arguments : List String)
    (action : List (Char × String) → List String → Step Nat) : Step Nat := do
  match options? plain valued (arguments.length + 1) arguments with
  | .ok (os, rest) => action os rest
  | .error text =>
    complain text
    usage

/-- Whether an option was given. -/
def has (os : List (Char × String)) (c : Char) : Bool := os.any (·.1 == c)

/-- The last value that was given with an option. -/
def valueOf? (os : List (Char × String)) (c : Char) : Option String :=
  ((os.filter (·.1 == c)).getLast?).map (·.2)

/-- The number that a text spells, with an optional sign. -/
def integer? (text : String) : Option Int := (Conditions.number? text).map (·.toInt)

end CompileTree.Shell.Extended.Builtin
