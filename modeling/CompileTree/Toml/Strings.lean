import CompileTree.Text.Hex

/-! # TOML strings

The four kinds of strings. A reader gets what follows the opening mark and
returns the text with what follows the closing one.
-/

namespace CompileTree.Toml

/-- Blanks within a line. -/
def isGap (c : Char) : Bool := c == ' ' || c == '\t'

/-- Control characters, which no string or remark may hold; a tab is none. -/
def isControl (c : Char) : Bool := (c.toNat < 0x20 && c != '\t') || c.toNat == 0x7F

/-- The character with the code point that hexadecimal digits spell. -/
def codePoint? (digits : List Char) : Option Char :=
  match Text.hexNumber? digits with
  | some n => if n < 0xD800 ∨ (0xE000 ≤ n ∧ n < 0x110000) then some (Char.ofNat n) else none
  | none => none

/-- The character that a letter after a backslash stands for. -/
def escaped? : Char → Option Char
  | 'b' => some '\x08'
  | 't' => some '\t'
  | 'n' => some '\n'
  | 'f' => some '\x0c'
  | 'r' => some '\r'
  | 'e' => some '\x1b'
  | '"' => some '"'
  | '\\' => some '\\'
  | _ => none

/-- What a string reader returns. -/
abbrev Rest := Option (List Char × List Char)

/-- Put a character before the text read. -/
def Rest.cons (c : Option Char) (rest : Rest) : Rest :=
  match c, rest with
  | some c, some (text, rest) => some (c :: text, rest)
  | _, _ => none

/-- A string between quotation marks on one line. -/
def basic : List Char → Rest
  | [] => none
  | '"' :: cs => some ([], cs)
  | '\\' :: 'u' :: a :: b :: c :: d :: cs => Rest.cons (codePoint? [a, b, c, d]) (basic cs)
  | '\\' :: 'U' :: a :: b :: c :: d :: e :: f :: g :: h :: cs =>
    Rest.cons (codePoint? [a, b, c, d, e, f, g, h]) (basic cs)
  | '\\' :: 'x' :: a :: b :: cs => Rest.cons (codePoint? [a, b]) (basic cs)
  | '\\' :: c :: cs => Rest.cons (escaped? c) (basic cs)
  | c :: cs => if isControl c ∨ c = '\\' then none else Rest.cons (some c) (basic cs)

/-- A string between apostrophes on one line. -/
def literal : List Char → Rest
  | [] => none
  | '\'' :: cs => some ([], cs)
  | c :: cs => if isControl c then none else Rest.cons (some c) (literal cs)

/-- Whether a text goes on with a line end. -/
def startsLineEnd : List Char → Bool
  | '\n' :: _ => true
  | '\r' :: '\n' :: _ => true
  | _ => false

/-- Drop one line end. -/
def dropLineEnd : List Char → List Char
  | '\n' :: cs => cs
  | '\r' :: '\n' :: cs => cs
  | cs => cs

/-- A string between three quotation marks. A backslash at the end of a line
    drops the blanks and line ends up to the next visible character; `skipping`
    says that they are being dropped. Up to two quotation marks may stand before
    the closing ones. -/
def multiBasic (skipping : Bool) : List Char → Rest
  | [] => none
  | '"' :: '"' :: '"' :: '"' :: '"' :: cs => some (['"', '"'], cs)
  | '"' :: '"' :: '"' :: '"' :: cs => some (['"'], cs)
  | '"' :: '"' :: '"' :: cs => some ([], cs)
  | '\r' :: '\n' :: cs =>
    if skipping then multiBasic true cs
    else Rest.cons (some '\r') (Rest.cons (some '\n') (multiBasic false cs))
  | '\n' :: cs => if skipping then multiBasic true cs else Rest.cons (some '\n') (multiBasic false cs)
  | '\\' :: 'u' :: a :: b :: c :: d :: cs =>
    Rest.cons (codePoint? [a, b, c, d]) (multiBasic false cs)
  | '\\' :: 'U' :: a :: b :: c :: d :: e :: f :: g :: h :: cs =>
    Rest.cons (codePoint? [a, b, c, d, e, f, g, h]) (multiBasic false cs)
  | '\\' :: 'x' :: a :: b :: cs => Rest.cons (codePoint? [a, b]) (multiBasic false cs)
  | '\\' :: c :: cs =>
    if startsLineEnd ((c :: cs).dropWhile isGap) then
      if c = '\r' ∨ c = '\n' ∨ isGap c then multiBasic true cs else none
    else Rest.cons (escaped? c) (multiBasic false cs)
  | c :: cs =>
    if isControl c ∨ c = '\\' then none
    else if skipping ∧ isGap c then multiBasic true cs
    else Rest.cons (some c) (multiBasic false cs)

/-- A string between three apostrophes. -/
def multiLiteral : List Char → Rest
  | [] => none
  | '\'' :: '\'' :: '\'' :: '\'' :: '\'' :: cs => some (['\'', '\''], cs)
  | '\'' :: '\'' :: '\'' :: '\'' :: cs => some (['\''], cs)
  | '\'' :: '\'' :: '\'' :: cs => some ([], cs)
  | '\r' :: '\n' :: cs => Rest.cons (some '\r') (Rest.cons (some '\n') (multiLiteral cs))
  | c :: cs => if isControl c ∧ c ≠ '\n' then none else Rest.cons (some c) (multiLiteral cs)

/-- The string at the start of a text, which is a mark. -/
def string? : List Char → Rest
  | '"' :: '"' :: '"' :: cs => multiBasic false (dropLineEnd cs)
  | '"' :: cs => basic cs
  | '\'' :: '\'' :: '\'' :: cs => multiLiteral (dropLineEnd cs)
  | '\'' :: cs => literal cs
  | _ => none

example : string? "\"\"\"\na\\\n   b\"\"\"\" #".toList = some ("ab\"".toList, " #".toList) := by
  decide

end CompileTree.Toml
