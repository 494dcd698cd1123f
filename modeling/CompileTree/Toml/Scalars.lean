import CompileTree.Toml

/-! # TOML numbers, dates and truth values

A value without marks is a run of letters, digits and a few signs. What kind of
value it is follows from its form alone.
-/

namespace CompileTree.Toml

/-- The characters of a value without marks. -/
def isScalarChar (c : Char) : Bool := c.isAlphanum || c ∈ ['+', '-', '_', '.', ':']

/-- The value of a digit in a radix of at most sixteen. -/
def digit? (radix : Nat) (c : Char) : Option Nat :=
  let n :=
    if c.isDigit then some (c.toNat - 48)
    else if 'a' ≤ c ∧ c ≤ 'f' then some (c.toNat - 87)
    else if 'A' ≤ c ∧ c ≤ 'F' then some (c.toNat - 55)
    else none
  n.filter (· < radix)

/-- The digits of a run in which single underscores may stand between digits. -/
def plainDigits? (radix : Nat) (cs : List Char) : Option (List Nat) :=
  match cs.splitOn '_' with
  | [[]] => none
  | groups => if groups.any (·.isEmpty) then none else groups.flatten.mapM (digit? radix)

/-- The number that digits spell. -/
def numberOf (radix : Nat) (digits : List Nat) : Nat := digits.foldl (· * radix + ·) 0

/-- A number without superfluous zeros before it. -/
def decimal? (cs : List Char) : Option Nat :=
  match cs with
  | '0' :: _ :: _ => none
  | cs => (plainDigits? 10 cs).map (numberOf 10)

/-- Split off a sign. -/
def signed (cs : List Char) : Bool × List Char :=
  match cs with
  | '-' :: cs => (true, cs)
  | '+' :: cs => (false, cs)
  | cs => (false, cs)

/-- A whole number. -/
def integer? (cs : List Char) : Option Int :=
  match cs with
  | '0' :: 'x' :: cs => (plainDigits? 16 cs).map fun ds => (numberOf 16 ds : Int)
  | '0' :: 'o' :: cs => (plainDigits? 8 cs).map fun ds => (numberOf 8 ds : Int)
  | '0' :: 'b' :: cs => (plainDigits? 2 cs).map fun ds => (numberOf 2 ds : Int)
  | cs =>
    let (negative, cs) := signed cs
    (decimal? cs).map fun n => if negative then -(n : Int) else n

/-- The least number that is too large for a float: numbers from half a unit
    above the largest float are. -/
def floatLimit : Nat := Nat.pow 2 1024 - Nat.pow 2 970

/-- Whether `digits` with a decimal point `scale` places from their end stay
    below the limit of floats. -/
def fitsFloat (digits : List Nat) (scale : Int) : Bool :=
  let digits := digits.dropWhile (· == 0)
  let magnitude := (digits.length : Int) - scale
  if digits.isEmpty || magnitude < 300 then true
  else if 400 < magnitude then false
  else if 0 ≤ scale then numberOf 10 digits < floatLimit * Nat.pow 10 scale.toNat
  else numberOf 10 digits * Nat.pow 10 (-scale).toNat < floatLimit

/-- Whether a text that is a number with a fraction or an exponent spells one that
    is not too large; none if it is no such number. -/
def float? (cs : List Char) : Option Bool :=
  let (_, cs) := signed cs
  if cs = "inf".toList ∨ cs = "nan".toList then some true
  else
    let isExponentMark (c : Char) : Bool := c == 'e' || c == 'E'
    let mantissa := cs.takeWhile (!isExponentMark ·)
    let exponent := match cs.dropWhile (!isExponentMark ·) with
      | [] => some none
      | _ :: cs =>
        let (negative, cs) := signed cs
        (plainDigits? 10 cs).map fun ds =>
          some (if negative then -(numberOf 10 ds : Int) else (numberOf 10 ds : Int))
    let whole := mantissa.takeWhile (· ≠ '.')
    let fraction := match mantissa.dropWhile (· ≠ '.') with
      | [] => some none
      | _ :: cs => (plainDigits? 10 cs).map some
    match exponent, fraction, (decimal? whole).bind fun _ => plainDigits? 10 whole with
    | some none, some none, _ => none
    | some exponent, some fraction, some whole =>
      let fraction := fraction.getD []
      some (fitsFloat (whole ++ fraction) ((fraction.length : Int) - exponent.getD 0))
    | _, _, _ => none

/-- The number at the start of a text that `count` digits spell, and what follows. -/
def digits? (count : Nat) (cs : List Char) : Option (Nat × List Char) :=
  if cs.length < count then none
  else ((cs.take count).mapM (digit? 10)).map fun ds => (numberOf 10 ds, cs.drop count)

/-- The number of days of a month. -/
def daysIn (year month : Nat) : Nat :=
  if month = 2 then if year % 4 = 0 ∧ (year % 100 ≠ 0 ∨ year % 400 = 0) then 29 else 28
  else if month ∈ [4, 6, 9, 11] then 30
  else 31

/-- What follows the date at the start of a text. -/
def afterDate? (cs : List Char) : Option (List Char) :=
  match digits? 4 cs with
  | some (year, '-' :: cs) =>
    match digits? 2 cs with
    | some (month, '-' :: cs) =>
      match digits? 2 cs with
      | some (day, cs) =>
        if 1 ≤ month ∧ month ≤ 12 ∧ 1 ≤ day ∧ day ≤ daysIn year month then some cs else none
      | none => none
    | _ => none
  | _ => none

/-- What follows the time at the start of a text; seconds and their fraction may be left out. -/
def afterTime? (cs : List Char) : Option (List Char) :=
  match digits? 2 cs with
  | some (hour, ':' :: cs) =>
    match digits? 2 cs with
    | some (minute, cs) =>
      if 24 ≤ hour ∨ 60 ≤ minute then none
      else
        match cs with
        | ':' :: cs =>
          match digits? 2 cs with
          | some (second, cs) =>
            if 61 ≤ second then none
            else
              match cs with
              | '.' :: c :: cs => if c.isDigit then some (cs.dropWhile Char.isDigit) else none
              | '.' :: [] => none
              | cs => some cs
          | none => none
        | cs => some cs
    | none => none
  | _ => none

/-- Whether a text is empty or the distance of a time from universal time. -/
def isOffset (cs : List Char) : Bool :=
  match cs with
  | [] => true
  | ['Z'] => true
  | ['z'] => true
  | c :: cs =>
    if c = '+' ∨ c = '-' then
      match digits? 2 cs with
      | some (hour, ':' :: cs) =>
        match digits? 2 cs with
        | some (minute, []) => hour < 24 && minute < 60
        | _ => false
      | _ => false
    else false

/-- Whether a text is a date, a time or both. -/
def isDateTime (cs : List Char) : Bool :=
  match afterDate? cs with
  | some [] => true
  | some (c :: cs) => (c == 'T' || c == 't' || c == ' ') && (afterTime? cs).any isOffset
  | none => afterTime? cs == some []

/-- The value that a run of characters spells. -/
def scalar? (cs : List Char) : Option Toml :=
  if cs = "true".toList then some (.bool true)
  else if cs = "false".toList then some (.bool false)
  else
    match integer? cs with
    | some n => some (.integer n)
    | none =>
      match float? cs with
      | some isFinite => some (.float isFinite)
      | none => if isDateTime cs then some .dateTime else none

example : (integer? "1_000".toList, integer? "-0x1".toList, integer? "0xF_f".toList,
    integer? "01".toList) = (some 1000, none, some 255, none) := by decide

example : float? "1e308".toList = some true ∧ float? "1e309".toList = some false ∧
    float? "1.".toList = none := by
  decide +kernel

example : isDateTime "2024-02-29T07:32".toList ∧ ¬ isDateTime "2023-02-29".toList := by
  decide

end CompileTree.Toml
