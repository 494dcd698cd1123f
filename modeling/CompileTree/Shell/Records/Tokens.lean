import CompileTree.Shell.Floating

/-! # Tokens of programs that treat records

A program is read token by token. Whether a slash divides or starts a pattern depends
on the token before it, and line ends do not count behind tokens that have to go on.
-/

namespace CompileTree.Shell.Records

/-- A piece of a program. -/
inductive Token where
  | number (spelled : String)
  | text (s : String)
  | pattern (source : String)
  /-- A name, with whether a parenthesis follows it at once. -/
  | name (n : String) (opens : Bool)
  /-- A name that the language has. -/
  | word (w : String)
  | sign (s : String)
  | lineEnd
  | finish
  /-- A character that is no part of programs. -/
  | stray (c : Char)
  deriving DecidableEq, Repr

/-- A token with the place where it ends, and what is wrong before it. -/
structure PlacedToken where
  token : Token
  /-- The file, if it is to be told, in front of messages. -/
  file : String
  line : Nat
  faults : List String

/-- What was read of a program, the last token first. -/
structure Scan where
  tokens : List PlacedToken
  file : String
  line : Nat
  braces : Nat
  parentheses : Nat
  faults : List String

/-- The names that programs cannot use for their own. -/
def keywords : List String := [
  "BEGIN", "END", "atan2", "break", "close", "continue", "cos", "delete", "do", "else", "exit", "exp",
  "fflush", "for", "function", "getline", "gsub", "if", "in", "index", "int", "length", "log", "match",
  "mktime", "next", "nextfile", "print", "printf", "rand", "return", "sin", "split", "sprintf", "sqrt",
  "srand", "strftime", "sub", "substr", "system", "systime", "tolower", "toupper", "while"]

/-- The signs of more than one character, longer ones first. -/
def longSigns : List String := [
  "&&", "||", "==", "!=", "<=", ">=", "!~", "++", "--", "+=", "-=", "*=", "/=", "%=", "^=", ">>"]

/-- The value of a hexadecimal digit pair or a single digit, and what follows it. -/
def hexCode (cs : List Char) : Char × List Char :=
  let digits := (cs.take 2).takeWhile fun c => (Text.hexValue? c).isSome
  (Char.ofNat ((Text.hexNumber? digits).getD 0), cs.drop digits.length)

/-- What a backslash with what follows it stands for, and what is left. -/
def escaped (cs : List Char) : List Char × List Char :=
  match cs with
  | [] => (['\\'], [])
  | c :: rest =>
    let octal := (cs.take 3).takeWhile fun c => '0' ≤ c && c ≤ '7'
    if !octal.isEmpty then
      ([Char.ofNat (Nat.ofDigitChars 8 octal 0 % 256)], cs.drop octal.length)
    else
      match c with
      | '"' => (['"'], rest)
      | '\\' => (['\\'], rest)
      | 'a' => (['\x07'], rest)
      | 'b' => (['\x08'], rest)
      | 'f' => (['\x0c'], rest)
      | 'n' => (['\n'], rest)
      | 'r' => (['\r'], rest)
      | 't' => (['\t'], rest)
      | 'v' => (['\x0b'], rest)
      | 'x' =>
        if (rest.head?.bind Text.hexValue?).isSome then
          let (c, rest) := hexCode rest
          ([c], rest)
        else (['\\', 'x'], rest)
      | c => (['\\', c], rest)

/-- A text with its escapes replaced; `fuel` bounds its length. -/
def unescapedWithin : Nat → List Char → List Char
  | 0, _ | _, [] => []
  | fuel + 1, '\\' :: cs =>
    let (found, rest) := escaped cs
    found ++ unescapedWithin fuel rest
  | fuel + 1, c :: cs => c :: unescapedWithin fuel cs

/-- A text with its escapes replaced. -/
def unescaped (cs : List Char) : List Char := unescapedWithin cs.length cs

/-- The inside of a text up to its quotation mark, with the number of line ends in it that
    a backslash takes away, and what follows; nothing if it does not end. -/
def quotedPart : List Char → Option (List Char × Nat × List Char)
  | [] | '\n' :: _ => none
  | '"' :: rest => some ([], 0, rest)
  | '\\' :: '\n' :: rest => (quotedPart rest).map fun (cs, n, rest) => (cs, n + 1, rest)
  | '\\' :: c :: rest => (quotedPart rest).map fun (cs, n, rest) => ('\\' :: c :: cs, n, rest)
  | c :: rest => (quotedPart rest).map fun (cs, n, rest) => (c :: cs, n, rest)

/-- The inside of a pattern up to its slash, and what follows; nothing if it does not end.
    In a set a slash stands for itself, and so does a bracket at its start. -/
def patternPart (inSet atStart : Bool) : List Char → Option (List Char × List Char)
  | [] | '\n' :: _ => none
  | '\\' :: '/' :: rest => (patternPart inSet false rest).map fun (cs, rest) => ('/' :: cs, rest)
  | '\\' :: c :: rest =>
    if c = '\n' then none
    else (patternPart inSet false rest).map fun (cs, rest) => ('\\' :: c :: cs, rest)
  | '/' :: rest =>
    if inSet then (patternPart inSet false rest).map fun (cs, rest) => ('/' :: cs, rest)
    else some ([], rest)
  | c :: rest =>
    let next := match inSet, c with
      | false, '[' => patternPart true true rest
      | true, '^' => patternPart true atStart rest
      | true, ']' => patternPart atStart false rest
      | inSet, _ => patternPart inSet false rest
    next.map fun (cs, rest) => (c :: cs, rest)

namespace Token

/-- Whether line ends behind a token do not count. -/
def goesOn : Token → Bool
  | .lineEnd => true
  | .sign s => s ∈ ["\x7b", "\x7d", ",", "&&", "||", ";"]
  | _ => false

/-- Whether a slash behind a token divides. -/
def isDivided : Token → Bool
  | .number _ | .text _ | .pattern _ | .name .. => true
  | .word w => w = "getline" ∨ w = "length"
  | .sign s => s ∈ [")", "]", "++", "--"]
  | _ => false

/-- Whether a closing brace behind a token ends no statement. -/
def isEnded : Token → Bool
  | .lineEnd => true
  | .sign s => s = ";" ∨ s = "\x7d"
  | _ => false

/-- A token in messages. -/
def shown : Token → String
  | .number s | .text s | .name s _ | .word s => s
  | .sign s => if s = "\x7d;" then "\x7d" else s
  | .pattern s => "/" ++ s ++ "/"
  | .lineEnd => "end of line"
  | .finish => "end of file"
  | .stray c => String.singleton c

end Token

namespace Scan

/-- The last token. -/
def last? (s : Scan) : Option Token := s.tokens.head?.map (·.token)

/-- Add a token. -/
def add (s : Scan) (t : Token) : Scan :=
  { s with tokens := ⟨t, s.file, s.line, s.faults.reverse⟩ :: s.tokens, faults := [] }

/-- What is wrong, with the place where it is. -/
def message (s : Scan) (text : String) : String :=
  s.file ++ "line " ++ toString s.line ++ ": " ++ text

/-- Note what is wrong. -/
def note (s : Scan) (text : String) : Scan := { s with faults := s.message text :: s.faults }

/-- Add a closing brace. The statement before it ends there. -/
def close (s : Scan) : Scan :=
  if s.braces = 0 then s.note "extra '\x7d'"
  else
    let s := if s.last?.any (!·.isEnded) then s.add (.sign "\x7d;") else s
    ({ s with braces := s.braces - 1 }).add (.sign "\x7d")

/-- The digits of a number at the start of a text, and what follows them. -/
def numberPart (cs : List Char) : List Char × List Char :=
  let whole := cs.takeWhile Char.isDigit
  let rest := cs.drop whole.length
  let (decimals, rest) := match rest with
    | '.' :: rest =>
      let ds := rest.takeWhile Char.isDigit
      ('.' :: ds, rest.drop ds.length)
    | rest => ([], rest)
  match rest with
  | e :: more =>
    if e = 'e' ∨ e = 'E' then
      let (sign, digits) := match more with
        | '-' :: more => (['-'], more)
        | '+' :: more => (['+'], more)
        | more => ([], more)
      let ds := digits.takeWhile Char.isDigit
      if ds.isEmpty then (whole ++ decimals, rest)
      else (whole ++ decimals ++ e :: sign ++ ds, digits.drop ds.length)
    else (whole ++ decimals, rest)
  | [] => (whole ++ decimals, [])

/-- The first characters of what does not end, with three points behind them. -/
def started (cs : List Char) : String :=
  let line := cs.takeWhile (· ≠ '\n')
  String.ofList (line.take 10) ++ " ..."

/-- Read on in a program; `fuel` bounds the number of tokens. A message ends it where a text
    does not end. -/
def run : Nat → List Char → Scan → Except String Scan
  | 0, _, s => .ok s
  | fuel + 1, cs, s =>
    match cs with
    | [] => .ok s
    | '\n' :: rest =>
      let after := { s with line := s.line + 1 }
      if s.faults.isEmpty && s.last?.all (·.goesOn) then run fuel rest after
      else run fuel rest { s.add .lineEnd with line := s.line + 1 }
    | '#' :: rest => run fuel (rest.dropWhile (· ≠ '\n')) s
    | '\\' :: '\n' :: rest => run fuel rest { s with line := s.line + 1 }
    | '\\' :: '\r' :: '\n' :: rest => run fuel rest { s with line := s.line + 1 }
    | '"' :: rest =>
      match quotedPart rest with
      | some (inside, lines, rest) =>
        run fuel rest ({ s with line := s.line + lines }.add (.text (String.ofList (unescaped inside))))
      | none =>
        .error (s.message ("runaway string constant \"" ++ started rest))
    | '/' :: rest =>
      if s.last?.any (·.isDivided) then
        if rest.head? = some '=' then run fuel (rest.drop 1) (s.add (.sign "/="))
        else run fuel rest (s.add (.sign "/"))
      else
        match patternPart false false rest with
        | some (inside, rest) => run fuel rest (s.add (.pattern (String.ofList inside)))
        | none =>
          .error (s.message ("runaway regular expression /" ++ started rest))
    | '\x7b' :: rest => run fuel rest ({ s with braces := s.braces + 1 }.add (.sign "\x7b"))
    | '\x7d' :: rest =>
      let closed := s.close
      if closed.braces = 0 ∧ s.braces = 1 then
        let behind := rest.dropWhile fun c => c = ' ' || c = '\t'
        run fuel (if behind.head? = some ';' then behind.drop 1 else rest) closed
      else run fuel rest closed
    | '(' :: rest => run fuel rest ({ s with parentheses := s.parentheses + 1 }.add (.sign "("))
    | ')' :: rest =>
      if s.parentheses = 0 then run fuel rest (s.note "extra ')'")
      else run fuel rest ({ s with parentheses := s.parentheses - 1 }.add (.sign ")"))
    | c :: rest =>
      if c = ' ' ∨ c = '\t' ∨ c = '\r' ∨ c = '\x0b' ∨ c = '\x0c' then run fuel rest s
      else if c.isDigit ∨ (c = '.' ∧ rest.head?.any Char.isDigit) then
        let (digits, rest) := numberPart cs
        run fuel rest (s.add (.number (String.ofList digits)))
      else if c.isAlpha ∨ c = '_' then
        let name := cs.takeWhile fun c => c.isAlphanum || c == '_'
        let rest := cs.drop name.length
        let n := String.ofList name
        if n ∈ keywords then run fuel rest (s.add (.word n))
        else run fuel rest (s.add (.name n (rest.head? == some '(')))
      else
        match longSigns.find? fun sign => sign.toList.isPrefixOf cs with
        | some sign => run fuel (rest.drop 1) (s.add (.sign sign))
        | none =>
          if c ∈ ['+', '-', '*', '%', '^', '!', '>', '<', '|', '?', ':', '~', '$', ',', ';', '=', '[', ']'] then
            run fuel rest (s.add (.sign (String.singleton c)))
          else run fuel rest (s.add (.stray c))

/-- The tokens of the parts of a program, each of which has the name of a file or none and
    ends with a line end. -/
def ofParts (parts : List (String × List Char)) : Except String Scan := do
  let read (s : Scan) (part : String × List Char) : Except String Scan :=
    run (part.2.length + 1) part.2 { s with file := part.1, line := 1 }
  return (← parts.foldlM read ⟨[], "", 1, 0, 0, []⟩).add .finish

end Scan

example : (Scan.ofParts [("", "a/b ~ /c/\n".toList)]).toOption.map (fun s => s.tokens.reverse.map (·.token)) =
    some [.name "a" false, .sign "/", .name "b" false, .sign "~", .pattern "c", .lineEnd, .finish] := by
  decide

end CompileTree.Shell.Records
