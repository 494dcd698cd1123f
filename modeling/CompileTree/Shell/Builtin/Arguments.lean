import CompileTree.Shell.Engine

/-! # Arguments of commands of the language

Their options, and the numbers among their arguments.
-/

namespace CompileTree.Shell.Builtin

open Run

/-- A command of the language, given its arguments. -/
abbrev Action := Engine → List String → Run Nat

/-- The options at the start of arguments, with the arguments behind them. An option
    that is in the second list takes an argument itself. -/
def options (plain valued : List Char) (arguments : List String) :
    Run (List (Char × String) × List String) :=
  within (arguments.length + 1) arguments
where
  letters : Nat → List Char → List String → Run (List (Char × String) × List String)
    | 0, _, rest => return ([], rest)
    | _ + 1, [], rest => return ([], rest)
    | fuel + 1, c :: cs, rest => do
      if c ∈ plain then
        let (os, rest) ← letters fuel cs rest
        return ((c, "") :: os, rest)
      else if c ∈ valued then
        match cs, rest with
        | [], [] => fault ("No arg for -" ++ String.singleton c ++ " option") 2
        | [], value :: rest => return ([(c, value)], rest)
        | cs, rest => return ([(c, String.ofList cs)], rest)
      else fault ("Illegal option -" ++ String.singleton c) 2
  within : Nat → List String → Run (List (Char × String) × List String)
    | 0, rest => return ([], rest)
    | _ + 1, [] => return ([], [])
    | fuel + 1, a :: rest => do
      match a.toList with
      | ['-', '-'] => return ([], rest)
      | '-' :: c :: cs =>
        let (os, rest) ← letters (cs.length + 2) (c :: cs) rest
        let (more, rest) ← within fuel rest
        return (os ++ more, rest)
      | _ => return ([], a :: rest)

/-- The arguments of a command that has no options. -/
def noOptions (arguments : List String) : Run (List String) := do
  return (← options [] [] arguments).2

/-- The number that an argument has to be; it fits into 31 bits. -/
def number (argument : String) : Run Nat := do
  let cs := argument.toList
  let n := Script.Reader.digitsValue cs
  if !cs.isEmpty && cs.all Char.isDigit && n ≤ 2147483647 then return n
  else fault ("Illegal number: " ++ argument) 2

/-- A text between apostrophes; the apostrophes in it stand between quotation marks.
    `fuel` bounds how often they do. -/
def quotedChars : Nat → List Char → List Char
  | 0, _ => []
  | fuel + 1, cs =>
    let start := cs.takeWhile (· ≠ '\'')
    let apostrophes := (cs.drop start.length).takeWhile (· == '\'')
    let rest := cs.drop (start.length + apostrophes.length)
    '\'' :: start ++ '\'' ::
      if apostrophes.isEmpty then []
      else '"' :: apostrophes ++ '"' :: if rest.isEmpty then [] else quotedChars fuel rest

/-- A text as a word that spells it. -/
def quoted (text : String) : String :=
  String.ofList (quotedChars (text.length + 1) text.toList)

example : quoted "it''s'" = "'it'\"''\"'s'\"'\"" := by decide

end CompileTree.Shell.Builtin
