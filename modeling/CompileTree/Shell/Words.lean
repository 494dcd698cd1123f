/-! # Words of a command line

A list of words is written as one line that a POSIX shell splits back into the
same words. A word is cut into chunks, each written in the lightest style that
all its characters allow: as it is, between apostrophes, or between quotation
marks. A word that holds a NUL has no written form.
-/

namespace CompileTree.Shell

/-- The styles in which a chunk may still be written. -/
structure Styles where
  plain : Bool
  single : Bool
  double : Bool
  deriving DecidableEq, Repr

/-- The characters that mean themselves outside quotes. -/
def isPlain (c : Char) : Bool :=
  c.isAlphanum || c ∈ ['+', '-', '.', '/', ':', '@', ']', '_']

/-- The styles that are left once a chunk holds a character. -/
def Styles.narrow (s : Styles) (c : Char) : Styles :=
  { plain := s.plain && isPlain c
    single := s.single && !(c ∈ ['\'', '^', '\\'])
    double := s.double && !(c ∈ ['\x60', '$', '!', '^']) }

/-- Whether no style is left. -/
def Styles.isNone (s : Styles) : Bool := !(s.plain || s.single || s.double)

/-- The styles of a chunk that starts with a character. A caret at the start is
    only ever written between apostrophes. -/
def Styles.start (c : Char) : Styles :=
  if c = '^' then ⟨false, true, false⟩ else (⟨true, true, true⟩ : Styles).narrow c

/-- Put a backslash before what stays special between quotation marks. -/
def escapeDouble (cs : List Char) : List Char :=
  cs.flatMap fun c => if c ∈ ['$', '\x60', '"', '\\'] then ['\\', c] else [c]

/-- Write a chunk in the lightest style left. -/
def Styles.write (s : Styles) (chunk : List Char) : List Char :=
  if s.plain then chunk
  else if s.single then '\'' :: chunk ++ ['\'']
  else '"' :: escapeDouble chunk ++ ['"']

/-- Write the chunk read so far, held in reverse, and what follows it. A chunk
    ends where the next character would leave it without a style. -/
def writeChunks (styles : Styles) (chunk : List Char) : List Char → List Char
  | [] => styles.write chunk.reverse
  | c :: cs =>
    let narrowed := styles.narrow c
    if narrowed.isNone then styles.write chunk.reverse ++ writeChunks (Styles.start c) [c] cs
    else writeChunks narrowed (c :: chunk) cs

/-- The written form of a word. -/
def quoteWord? (word : List Char) : Option (List Char) :=
  if '\x00' ∈ word then none
  else
    match word with
    | [] => some ['\'', '\'']
    | c :: cs => some (writeChunks (Styles.start c) [c] cs)

/-- The line that splits into the given words. -/
def quote? (words : List String) : Option String :=
  (words.mapM fun w => quoteWord? w.toList).map fun ws =>
    String.ofList ([' '].intercalate ws)

/-- Where a splitter stands in a line. -/
inductive Mode where
  /-- Before a word. -/
  | between
  /-- In a remark, which a hash before a word begins and the line end closes. -/
  | remark
  | plain
  /-- After a backslash outside quotes. -/
  | escaped
  /-- Between apostrophes. -/
  | single
  /-- Between quotation marks. -/
  | double
  /-- After a backslash between quotation marks. -/
  | doubleEscaped
  deriving DecidableEq, Repr

/-- The blanks between words. -/
def isSpace (c : Char) : Bool := c == ' ' || c == '\t' || c == '\n'

/-- Split the rest of a line; `word` holds what was read of the current word, in
    reverse. A line that ends within quotes or after a backslash has no words. -/
def splitFrom : Mode → List Char → List Char → Option (List (List Char))
  | .between, _, [] => some []
  | .remark, _, [] => some []
  | .plain, word, [] => some [word.reverse]
  | .escaped, _, [] => none
  | .single, _, [] => none
  | .double, _, [] => none
  | .doubleEscaped, _, [] => none
  | .between, _, c :: cs =>
    if isSpace c then splitFrom .between [] cs
    else if c = '#' then splitFrom .remark [] cs
    else if c = '\'' then splitFrom .single [] cs
    else if c = '"' then splitFrom .double [] cs
    else if c = '\\' then splitFrom .escaped [] cs
    else splitFrom .plain [c] cs
  | .remark, _, c :: cs => splitFrom (if c = '\n' then .between else .remark) [] cs
  | .plain, word, c :: cs =>
    if isSpace c then (splitFrom .between [] cs).map (word.reverse :: ·)
    else if c = '\'' then splitFrom .single word cs
    else if c = '"' then splitFrom .double word cs
    else if c = '\\' then splitFrom .escaped word cs
    else splitFrom .plain (c :: word) cs
  | .escaped, word, c :: cs => splitFrom .plain (if c = '\n' then word else c :: word) cs
  | .single, word, c :: cs =>
    if c = '\'' then splitFrom .plain word cs else splitFrom .single (c :: word) cs
  | .double, word, c :: cs =>
    if c = '"' then splitFrom .plain word cs
    else if c = '\\' then splitFrom .doubleEscaped word cs
    else splitFrom .double (c :: word) cs
  | .doubleEscaped, word, c :: cs =>
    if c = '\n' then splitFrom .double word cs
    else if c ∈ ['$', '\x60', '"', '\\'] then splitFrom .double (c :: word) cs
    else splitFrom .double (c :: '\\' :: word) cs

/-- The words of a line. -/
def split? (line : String) : Option (List String) :=
  (splitFrom .between [] line.toList).map (·.map String.ofList)

example : quote? ["a b", "", "it's", "x^y", "-DX=\"1\""] =
    some "'a b' '' \"it's\" x'^y' '-DX=\"1\"'" := by decide

example : split? "a'b c'\"\\$d\" # x\n \\\n" = some ["ab c$d", ""] := by decide

end CompileTree.Shell
