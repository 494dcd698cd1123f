/-! # Modes

A mode tells in bits who may do what with a file: three bits each for its owner, its
group and all others, for reading, writing and running. Three more come before them.
Changes of a mode are spelled in octal digits or in clauses, such as `u+x` or
`go=r`; those in a clause that names nobody spare the bits of a mask.
-/

namespace CompileTree.Files.Mode

/-- An operator of a clause, with the letters of what it is about. -/
structure Operation where
  operator : Char
  letters : List Char
  deriving DecidableEq, Repr

/-- A part of a change. -/
structure Clause where
  who : List Char
  operations : List Operation
  deriving DecidableEq, Repr

/-- A change of modes. -/
inductive Change where
  | octal (mode digits : Nat)
  | clauses (cs : List Clause)
  deriving DecidableEq, Repr

/-- Whether a character is an octal digit. -/
def isOctal (c : Char) : Bool := '0' ≤ c && c ≤ '7'

/-- The operations that characters spell; `fuel` bounds their number. -/
def operations? : Nat → List Char → Option (List Operation)
  | 0, _ => none
  | _ + 1, [] => some []
  | fuel + 1, operator :: cs =>
    if operator ∈ ['+', '-', '='] then
      let letters := cs.takeWhile Char.isAlpha
      let isCopy := letters.length = 1 && letters.all (· ∈ ['u', 'g', 'o'])
      if isCopy || letters.all (· ∈ ['r', 'w', 'x', 'X', 's', 't']) then
        (operations? fuel (cs.drop letters.length)).map (⟨operator, letters⟩ :: ·)
      else none
    else none

/-- The clause that characters spell. -/
def clause? (cs : List Char) : Option Clause :=
  let who := cs.takeWhile (· ∈ ['u', 'g', 'o', 'a'])
  match cs.drop who.length with
  | [] => none
  | rest => (operations? (rest.length + 1) rest).map (⟨who, ·⟩)

/-- The change that a text spells. -/
def change? (text : String) : Option Change :=
  let cs := text.toList
  if !cs.isEmpty && cs.all isOctal then
    let mode := Nat.ofDigitChars 8 cs 0
    if mode < 0o10000 then some (.octal mode cs.length) else none
  else ((cs.splitOn ',').mapM clause?).map .clauses

/-- The bits that belong to somebody. -/
def share (who : Char) : Nat :=
  match who with
  | 'u' => 0o4700
  | 'g' => 0o2070
  | 'o' => 0o1007
  | _ => 0o7777

/-- The bits that a letter stands for, in a mode and for a directory or not. -/
def bits (mode : Nat) (isDirectory : Bool) (letter : Char) : Nat :=
  match letter with
  | 'r' => 0o444
  | 'w' => 0o222
  | 'x' => 0o111
  | 'X' => if isDirectory || mode &&& 0o111 ≠ 0 then 0o111 else 0
  | 's' => 0o6000
  | 't' => 0o1000
  | 'u' => mode / 64 % 8 * 0o111
  | 'g' => mode / 8 % 8 * 0o111
  | 'o' => mode % 8 * 0o111
  | _ => 0

/-- Carry out an operation on a mode. -/
def Operation.apply (o : Operation) (who : List Char) (mask mode : Nat) (isDirectory : Bool) :
    Nat :=
  let affected := if who.isEmpty then 0o7777 else (who.map share).foldl (· ||| ·) 0
  let spared := if who.isEmpty then mask else 0
  let value := (o.letters.map (bits mode isDirectory)).foldl (· ||| ·) 0
  let sticky := if who.isEmpty || who.contains 'a' || who.contains 'o' then value
    else value &&& 0o6777
  let value := sticky &&& affected &&& (0o7777 - spared)
  match o.operator with
  | '+' => mode ||| value
  | '-' => mode &&& (0o7777 - value)
  | _ =>
    let kept := if isDirectory then affected &&& 0o1777 else affected
    (mode &&& (0o7777 - kept)) ||| value

/-- Carry out a change of a mode. Octal digits spare the first bits of a directory
    unless there are many of them. -/
def Change.apply (c : Change) (mask mode : Nat) (isDirectory : Bool) : Nat :=
  match c with
  | .octal new digits =>
    if isDirectory && digits < 5 then (mode &&& 0o6000) ||| new else new
  | .clauses cs =>
    cs.foldl (fun mode c =>
      c.operations.foldl (fun mode o => o.apply c.who mask mode isDirectory) mode) mode

/-- A mode in letters, as listings show it behind the letter of a kind. -/
def letters (mode : Nat) : String :=
  let one (n : Nat) (special : Bool) (set unset : Char) : List Char :=
    [if n / 4 % 2 = 1 then 'r' else '-', if n / 2 % 2 = 1 then 'w' else '-',
      match n % 2 == 1, special with
      | true, true => set
      | false, true => unset
      | true, false => 'x'
      | false, false => '-']
  String.ofList (one (mode / 64) (mode / 2048 % 2 = 1) 's' 'S' ++
    one (mode / 8) (mode / 1024 % 2 = 1) 's' 'S' ++ one mode (mode / 512 % 2 = 1) 't' 'T')

/-- A number in octal digits, filled up with zeros. -/
def octalText (width n : Nat) : String :=
  let cs := Nat.toDigits 8 n
  String.ofList (List.replicate (width - cs.length) '0' ++ cs)

example : (change? "u+x,go=r").map (·.apply 0o022 0o644 false) = some 0o744 := by decide

example : letters 0o1755 = "rwxr-xr-t" := by decide

end CompileTree.Files.Mode
