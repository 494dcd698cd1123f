/-! # Written forms of values

How the extended shell writes a value so that it can be read again: with backslashes,
between apostrophes, between quotation marks, or with escapes where it holds characters
that cannot be shown.
-/

namespace CompileTree.Shell.Extended.Quoting

/-- Whether a character can be shown as it is. -/
def isShown (c : Char) : Bool := ' ' ≤ c && c ≤ '~'

/-- Whether a text has to be written with escapes. -/
def needsEscapes (text : String) : Bool := text.toList.any (!isShown ·)

/-- A character as it is written with escapes. -/
def escapedChar (c : Char) : List Char :=
  let letter? : Option Char := match c with
    | '\x07' => some 'a'
    | '\x08' => some 'b'
    | '\x1b' => some 'E'
    | '\x0c' => some 'f'
    | '\n' => some 'n'
    | '\r' => some 'r'
    | '\t' => some 't'
    | '\x0b' => some 'v'
    | '\\' => some '\\'
    | '\'' => some '\''
    | _ => none
  match letter? with
  | some letter => ['\\', letter]
  | none =>
    if isShown c then [c]
    else
      let digits := Nat.toDigits 8 c.toNat
      '\\' :: List.replicate (3 - digits.length) '0' ++ digits

/-- A text with escapes. -/
def escaped (text : String) : String :=
  String.ofList ("$'".toList ++ text.toList.flatMap escapedChar ++ ['\''])

/-- A text between apostrophes. -/
def apostrophes (text : String) : String :=
  if text = "'" then "\\'"
  else String.ofList ('\'' :: (text.toList.flatMap fun c =>
    if c = '\'' then "'\\''".toList else [c]) ++ ['\''])

/-- A text between quotation marks. -/
def marks (text : String) : String :=
  String.ofList ('"' :: (text.toList.flatMap fun c =>
    if c ∈ ['"', '$', '\x60', '\\'] then ['\\', c] else [c]) ++ ['"'])

/-- The characters with what stands before each of them. -/
def withBefore (text : String) : List (Option Char × Char) :=
  let cs := text.toList
  (none :: cs.map some).zip cs

/-- Whether a tilde behind a character has a meaning. -/
def opensHome (before : Option Char) : Bool := before.all fun c => c == ':' || c == '='

/-- A text with backslashes. -/
def backslashes (text : String) : String :=
  String.ofList ((withBefore text).flatMap fun (before, c) =>
    let special := c ∈ [' ', '\t', '\n', '!', '"', '$', '&', '\'', '(', ')', '*', ',', ';', '<',
      '>', '?', '[', '\\', ']', '^', '\x60', '\x7b', '|', '\x7d']
    if special || (c == '#' && before.isNone) || (c == '~' && opensHome before) then ['\\', c]
    else [c])

/-- Whether a text has characters with a meaning of their own. -/
def hasMeaning (text : String) : Bool :=
  (withBefore text).any fun (before, c) =>
    c ∈ [' ', '\t', '\n', '\'', '"', '\\', '|', '&', ';', '(', ')', '<', '>', '!', '\x7b', '\x7d',
      '*', '[', '?', ']', '^', '$', '\x60'] ||
      (c == '~' && opensHome before) || (c == '#' && before.isNone)

/-- A text as a word that a format writes. -/
def word (text : String) : String :=
  if text = "" then "''" else if needsEscapes text then escaped text else backslashes text

/-- A text as a word between quotes. -/
def quoted (text : String) : String :=
  if text = "" then "''" else if needsEscapes text then escaped text else apostrophes text

/-- A text as the value in a declaration. -/
def declared (text : String) : String :=
  if needsEscapes text then escaped text else marks text

/-- A text as the value in a list of variables. -/
def listed (text : String) : String :=
  if needsEscapes text then escaped text
  else if hasMeaning text then apostrophes text else text

/-- A text as the value of an assignment that is shown. -/
def tracedValue (text : String) : String :=
  if hasMeaning text then apostrophes text
  else if needsEscapes text then escaped text else text

/-- A text as a word of a command that is shown. -/
def traced (text : String) : String := if text = "" then "''" else tracedValue text

example : word "it's a=~b" = "it\\'s\\ a=\\~b" := by decide

example : quoted "it's" = "'it'\\''s'" := by decide

end CompileTree.Shell.Extended.Quoting
