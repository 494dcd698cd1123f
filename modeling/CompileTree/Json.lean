import CompileTree.Text.Hex

/-! # JSON texts

Strict reading of JSON: no comments, no trailing commas, nothing after the
value. Objects keep their members in order, repeated keys included, and a string
or key with an unpaired surrogate is kept as one without a text.
-/

namespace CompileTree

/-- A value. -/
inductive Json where
  | null
  | bool (b : Bool)
  | number
  /-- A string; none stands for one that is no text. -/
  | string (text : Option String)
  | array (items : List Json)
  | object (members : List (Option String × Json))
  deriving Repr

namespace Json

/-- A lexical unit. -/
inductive Token where
  | openBracket
  | closeBracket
  | openBrace
  | closeBrace
  | comma
  | colon
  | null
  | bool (b : Bool)
  | number
  | string (text : Option String)
  deriving DecidableEq, Repr

/-- One place of a string: a character or half of a pair of surrogates. -/
inductive Piece where
  | char (c : Char)
  | surrogate (n : Nat)
  deriving DecidableEq, Repr

/-- The place that an escape of four digits stands for. -/
def Piece.ofNumber (n : Nat) : Piece :=
  if 0xD800 ≤ n ∧ n ≤ 0xDFFF then .surrogate n else .char (Char.ofNat n)

/-- The character that a letter after a backslash stands for. -/
def escaped? : Char → Option Char
  | '"' => some '"'
  | '\\' => some '\\'
  | '/' => some '/'
  | 'b' => some '\x08'
  | 'f' => some '\x0c'
  | 'n' => some '\n'
  | 'r' => some '\r'
  | 't' => some '\t'
  | _ => none

/-- The places of a string up to its closing mark, and what follows. -/
def stringBody : List Char → Option (List Piece × List Char)
  | [] => none
  | '"' :: cs => some ([], cs)
  | '\\' :: 'u' :: a :: b :: c :: d :: cs =>
    match Text.hexNumber? [a, b, c, d], stringBody cs with
    | some n, some (pieces, rest) => some (Piece.ofNumber n :: pieces, rest)
    | _, _ => none
  | '\\' :: e :: cs =>
    match escaped? e, stringBody cs with
    | some c, some (pieces, rest) => some (.char c :: pieces, rest)
    | _, _ => none
  | c :: cs =>
    if c.toNat < 0x20 ∨ c = '\\' then none
    else (stringBody cs).map fun (pieces, rest) => (.char c :: pieces, rest)

/-- Join pairs of surrogates; none if one is left over. -/
def joinPairs : List Piece → Option (List Char)
  | [] => some []
  | .char c :: pieces => (joinPairs pieces).map (c :: ·)
  | .surrogate high :: .surrogate low :: pieces =>
    if high < 0xDC00 ∧ 0xDC00 ≤ low then
      (joinPairs pieces).map (Char.ofNat (0x10000 + (high - 0xD800) * 0x400 + (low - 0xDC00)) :: ·)
    else none
  | .surrogate _ :: _ => none

/-- What follows the digits at the start of a text, of which there is at least one. -/
def digits? : List Char → Option (List Char)
  | c :: cs => if c.isDigit then some (cs.dropWhile Char.isDigit) else none
  | [] => none

/-- What follows an exponent, if there is one. -/
def afterExponent? : List Char → Option (List Char)
  | 'e' :: '+' :: cs | 'e' :: '-' :: cs | 'E' :: '+' :: cs | 'E' :: '-' :: cs => digits? cs
  | 'e' :: cs | 'E' :: cs => digits? cs
  | cs => some cs

/-- What follows the number without sign at the start of a text. -/
def afterNumber? (cs : List Char) : Option (List Char) :=
  let whole := match cs with
    | '0' :: cs => some cs
    | cs => digits? cs
  match whole with
  | some ('.' :: cs) => (digits? cs).bind afterExponent?
  | some cs => afterExponent? cs
  | none => none

/-- The blanks between units. -/
def isSpace (c : Char) : Bool := c == ' ' || c == '\n' || c == '\t' || c == '\r'

/-- The first unit of a text without blanks before it, and what follows. -/
def token? : List Char → Option (Token × List Char)
  | '[' :: cs => some (.openBracket, cs)
  | ']' :: cs => some (.closeBracket, cs)
  | '\x7b' :: cs => some (.openBrace, cs)
  | '\x7d' :: cs => some (.closeBrace, cs)
  | ',' :: cs => some (.comma, cs)
  | ':' :: cs => some (.colon, cs)
  | 'n' :: 'u' :: 'l' :: 'l' :: cs => some (.null, cs)
  | 't' :: 'r' :: 'u' :: 'e' :: cs => some (.bool true, cs)
  | 'f' :: 'a' :: 'l' :: 's' :: 'e' :: cs => some (.bool false, cs)
  | '"' :: cs =>
    (stringBody cs).map fun (pieces, rest) => (.string ((joinPairs pieces).map String.ofList), rest)
  | '-' :: cs => (afterNumber? cs).map (.number, ·)
  | cs => (afterNumber? cs).map (.number, ·)

/-- The units of a text; `fuel` bounds their number. -/
def tokensWithin : Nat → List Char → Option (List Token)
  | 0, _ => none
  | fuel + 1, cs =>
    match cs.dropWhile isSpace with
    | [] => some []
    | cs =>
      match token? cs with
      | some (t, rest) => (tokensWithin fuel rest).map (t :: ·)
      | none => none

/-- The units of a text. -/
def tokens (cs : List Char) : Option (List Token) := tokensWithin (cs.length + 1) cs

mutual

/-- The value at the start of a list of units, and what follows it. -/
def value? : Nat → List Token → Option (Json × List Token)
  | 0, _ => none
  | _ + 1, [] => none
  | fuel + 1, t :: ts =>
    match t with
    | .null => some (.null, ts)
    | .bool b => some (.bool b, ts)
    | .number => some (.number, ts)
    | .string text => some (.string text, ts)
    | .openBracket =>
      match ts with
      | .closeBracket :: ts => some (.array [], ts)
      | ts => (items? fuel ts).map fun (items, rest) => (.array items, rest)
    | .openBrace =>
      match ts with
      | .closeBrace :: ts => some (.object [], ts)
      | ts => (members? fuel ts).map fun (members, rest) => (.object members, rest)
    | _ => none

/-- The items of an array up to its end. -/
def items? : Nat → List Token → Option (List Json × List Token)
  | 0, _ => none
  | fuel + 1, ts =>
    match value? fuel ts with
    | some (v, .comma :: ts) => (items? fuel ts).map fun (vs, rest) => (v :: vs, rest)
    | some (v, .closeBracket :: ts) => some ([v], ts)
    | _ => none

/-- The members of an object up to its end. -/
def members? : Nat → List Token → Option (List (Option String × Json) × List Token)
  | 0, _ => none
  | fuel + 1, ts =>
    match ts with
    | .string key :: .colon :: ts =>
      match value? fuel ts with
      | some (v, .comma :: ts) => (members? fuel ts).map fun (ms, rest) => ((key, v) :: ms, rest)
      | some (v, .closeBrace :: ts) => some ([(key, v)], ts)
      | _ => none
    | _ => none

end

/-- The value that a text holds. -/
def ofText? (text : String) : Option Json :=
  match tokens text.toList with
  | none => none
  | some ts =>
    match value? (2 * ts.length + 1) ts with
    | some (v, []) => some v
    | _ => none

/-- How a character is written within a string. -/
def writeChar (c : Char) : List Char :=
  match c with
  | '"' => ['\\', '"']
  | '\\' => ['\\', '\\']
  | '\x08' => ['\\', 'b']
  | '\t' => ['\\', 't']
  | '\n' => ['\\', 'n']
  | '\x0c' => ['\\', 'f']
  | '\r' => ['\\', 'r']
  | c => if c.toNat < 0x20 then '\\' :: 'u' :: Text.paddedHex 4 c.toNat else [c]

/-- How a string is written. -/
def writeString (text : String) : List Char :=
  '"' :: text.toList.flatMap writeChar ++ ['"']

end Json

end CompileTree
