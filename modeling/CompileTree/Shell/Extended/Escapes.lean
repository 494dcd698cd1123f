import CompileTree.Shell.Formatted

/-! # Escapes

Characters that are spelled by a backslash and what follows it. Three kinds of texts know
them: those between apostrophes behind a dollar sign, those that are written with
escapes, and formats.
-/

namespace CompileTree.Shell.Extended.Escapes

/-- The texts that have escapes. -/
inductive Kind where
  | quoted
  | written
  /-- An argument that a format writes with escapes. -/
  | argument
  | format
  deriving DecidableEq, Repr

/-- The value of a hexadecimal digit. -/
def hex? (c : Char) : Option Nat :=
  let n := Arithmetic.digit c
  if n < 16 then some n else none

/-- The number that digits spell. -/
def valueOf (base : Nat) (digits : List Char) : Nat :=
  digits.foldl (fun n c => base * n + Arithmetic.digit c) 0

/-- The digits at the start of a text, at most so many. -/
def digitsOf (base limit : Nat) (cs : List Char) : List Char :=
  (cs.take limit).takeWhile fun c => Arithmetic.digit c < base

/-- The character of a code, of which only the last byte counts. -/
def byte (code : Nat) : Char := Char.ofNat (code % 256)

/-- What a code with four or eight digits stands for: a character that takes one byte, or
    the spelling of any other one. -/
def wide (code : Nat) : List Char :=
  if code ≤ 0x7f then [Char.ofNat code]
  else
    let digits := (Nat.toDigits 16 code).map Char.toUpper
    let (letter, width) := if code ≤ 0xffff then ('u', 4) else ('U', 8)
    '\\' :: letter :: List.replicate (width - digits.length) '0' ++ digits

/-- What an escape stands for, given what follows its backslash, and what follows it;
    nothing if the text ends there. -/
def escape (kind : Kind) (cs : List Char) : Option (List Char × List Char) :=
  match cs with
  | [] => some (['\\'], [])
  | c :: rest =>
    let octal (limit : Nat) (cs : List Char) : Option (List Char × List Char) :=
      let digits := digitsOf 8 limit cs
      some ([byte (valueOf 8 digits)], cs.drop digits.length)
    let code (limit : Nat) : Option (List Char × List Char) :=
      let digits := digitsOf 16 limit rest
      if digits.isEmpty then some (['\\', c], rest)
      else some (wide (valueOf 16 digits), rest.drop digits.length)
    match c with
    | 'a' => some (['\x07'], rest)
    | 'b' => some (['\x08'], rest)
    | 'e' | 'E' => some (['\x1b'], rest)
    | 'f' => some (['\x0c'], rest)
    | 'n' => some (['\n'], rest)
    | 'r' => some (['\r'], rest)
    | 't' => some (['\t'], rest)
    | 'v' => some (['\x0b'], rest)
    | '\\' => some (['\\'], rest)
    | 'x' =>
      match kind, rest with
      | .quoted, '\x7b' :: more =>
        let digits := more.takeWhile fun c => (hex? c).isSome
        let after := more.drop digits.length
        let after := if after.head? == some '\x7d' then after.drop 1 else after
        some ([byte (valueOf 16 digits)], after)
      | _, _ =>
        let digits := digitsOf 16 2 rest
        if digits.isEmpty then some (['\\', 'x'], rest)
        else some ([byte (valueOf 16 digits)], rest.drop digits.length)
    | 'u' => code 4
    | 'U' => code 8
    | '\'' | '"' | '?' => if kind = .written then some (['\\', c], rest) else some ([c], rest)
    | 'c' =>
      match kind, rest with
      | .quoted, '\\' :: '\\' :: more => some ([Char.ofNat 0x1c], more)
      | .quoted, d :: more =>
        some ([if d = '?' then '\x7f' else Char.ofNat (d.toUpper.toNat % 32)], more)
      | .quoted, [] => some (['\\', 'c'], [])
      | .format, _ => some (['\\', 'c'], rest)
      | _, _ => none
    | '0' =>
      if kind = .written ∨ kind = .argument then octal 3 rest else octal 3 cs
    | _ =>
      if '1' ≤ c ∧ c ≤ '7' ∧ kind ≠ .written then octal 3 cs
      else some (['\\', c], rest)

/-- A text with its escapes replaced, and whether all that follows is dropped; `fuel`
    bounds its length. -/
def expandWithin (kind : Kind) : Nat → List Char → List Char × Bool
  | 0, _ | _, [] => ([], false)
  | fuel + 1, '\\' :: cs =>
    match escape kind cs with
    | none => ([], true)
    | some (text, rest) =>
      let (more, stopped) := expandWithin kind fuel rest
      (text ++ more, stopped)
  | fuel + 1, c :: cs =>
    let (more, stopped) := expandWithin kind fuel cs
    (c :: more, stopped)

/-- A text with its escapes replaced, and whether all that follows is dropped. -/
def expand (kind : Kind) (cs : List Char) : List Char × Bool :=
  expandWithin kind (cs.length + 1) cs

/-- What a text between apostrophes behind a dollar sign stands for. A NUL ends it. -/
def ofQuoted (cs : List Char) : List Char := (expand .quoted cs).1.takeWhile (· ≠ '\x00')

example : ofQuoted "tab\\there\\x41\\n\\'".toList = "tab\thereA\n'".toList := by decide

end CompileTree.Shell.Extended.Escapes
