import CompileTree.Toml.Scalars
import CompileTree.Toml.Strings

/-! # Reading TOML

A text is a sequence of lines that hold a header, an assignment or nothing, with
a remark after any of them. Readers return what follows the part they have read.
-/

namespace CompileTree.Toml

/-- What follows a remark, if there is one, up to the end of its line. -/
def afterRemark? (cs : List Char) : Option (List Char) :=
  match cs with
  | '#' :: cs =>
    let isText (c : Char) : Bool := !isControl c
    let rest := cs.dropWhile isText
    if rest.isEmpty || startsLineEnd rest then some rest else none
  | cs => some cs

/-- What follows blanks, line ends and remarks. -/
def skipLines (inRemark : Bool) : List Char → Option (List Char)
  | [] => some []
  | c :: cs =>
    if startsLineEnd (c :: cs) then skipLines (inRemark && c == '\r') cs
    else if inRemark then if isControl c then none else skipLines true cs
    else if isGap c then skipLines false cs
    else if c = '#' then skipLines true cs
    else some (c :: cs)

/-- The characters of a key without marks. -/
def isKeyChar (c : Char) : Bool := c.isAlphanum || c == '-' || c == '_'

/-- One part of a key. -/
def keyPart? (cs : List Char) : Rest :=
  match cs with
  | '"' :: cs => basic cs
  | '\'' :: cs => literal cs
  | cs =>
    match cs.takeWhile isKeyChar with
    | [] => none
    | part => some (part, cs.dropWhile isKeyChar)

/-- How deep arrays and inline tables may nest, and of how many parts a key may
    be made. -/
def depthLimit : Nat := 80

/-- A key of at most `room` parts with dots between them, as the parts before the
    last and the last. -/
def keyParts? : Nat → List Char → Option ((List String × String) × List Char)
  | 0, _ => none
  | room + 1, cs =>
    match keyPart? (cs.dropWhile isGap) with
    | none => none
    | some (part, rest) =>
      let part := String.ofList part
      match rest.dropWhile isGap with
      | '.' :: rest =>
        (keyParts? room rest).map fun ((path, last), rest) => ((part :: path, last), rest)
      | rest => some (([], part), rest)

/-- A key. -/
def key? (cs : List Char) : Option ((List String × String) × List Char) :=
  keyParts? depthLimit cs

/-- A value without marks; a date and a time may be parted by one blank. -/
def bare? (cs : List Char) : Option (Toml × List Char) :=
  let run := cs.takeWhile isScalarChar
  match afterDate? run, cs.dropWhile isScalarChar with
  | some [], ' ' :: c :: rest =>
    if c.isDigit then
      (scalar? (run ++ 'T' :: (c :: rest).takeWhile isScalarChar)).map
        (·, (c :: rest).dropWhile isScalarChar)
    else (scalar? run).map (·, ' ' :: c :: rest)
  | _, rest => (scalar? run).map (·, rest)

mutual

/-- A value in which arrays and inline tables nest at most `depth` deep. -/
def value? : Nat → Nat → List Char → Option (Toml × List Char)
  | 0, _, _ => none
  | fuel + 1, depth, cs =>
    match depth, cs with
    | depth + 1, '[' :: cs =>
      (skipLines false cs).bind fun cs =>
        (items? fuel depth cs).map fun (items, rest) => (.array items, rest)
    | depth + 1, '\x7b' :: cs =>
      (skipLines false cs).bind fun cs =>
        (entries? fuel depth [] cs).map fun (entries, rest) => (.table .inline entries, rest)
    | _, '"' :: _ | _, '\'' :: _ =>
      (string? cs).map fun (text, rest) => (.string (String.ofList text), rest)
    | _, cs => bare? cs

/-- The items of an array up to its end; a comma may follow the last. -/
def items? : Nat → Nat → List Char → Option (List Toml × List Char)
  | 0, _, _ => none
  | fuel + 1, depth, cs =>
    match cs with
    | ']' :: cs => some ([], cs)
    | cs =>
      match value? fuel depth cs with
      | none => none
      | some (v, rest) =>
        match skipLines false rest with
        | some (',' :: rest) =>
          (skipLines false rest).bind fun rest =>
            (items? fuel depth rest).map fun (vs, rest) => (v :: vs, rest)
        | some (']' :: rest) => some ([v], rest)
        | _ => none

/-- The entries of an inline table up to its end, added to those already read.
    Lines may end everywhere but within keys. -/
def entries? : Nat → Nat → Entries → List Char → Option (Entries × List Char)
  | 0, _, _, _ => none
  | fuel + 1, depth, entries, cs =>
    match cs with
    | '\x7d' :: cs => some (entries, cs)
    | cs =>
      match (key? cs).bind fun (key, rest) => (skipLines false rest).map (key, ·) with
      | some ((path, key), '=' :: rest) =>
        match (skipLines false rest).bind (value? fuel depth) with
        | none => none
        | some (v, rest) =>
          match assign .inline entries path key v, skipLines false rest with
          | some entries, some (',' :: rest) =>
            (skipLines false rest).bind (entries? fuel depth entries)
          | some entries, some ('\x7d' :: rest) => some (entries, rest)
          | _, _ => none
      | _ => none

end

/-- The statement at the start of a line. -/
def statement? (cs : List Char) : Option (Statement × List Char) :=
  match cs with
  | '[' :: '[' :: cs =>
    match key? cs with
    | some ((path, key), ']' :: ']' :: rest) => some (.item path key, rest)
    | _ => none
  | '[' :: cs =>
    match key? cs with
    | some ((path, key), ']' :: rest) => some (.header path key, rest)
    | _ => none
  | cs =>
    match key? cs with
    | some ((path, key), '=' :: rest) =>
      (value? (rest.length + 1) depthLimit (rest.dropWhile isGap)).map fun (v, rest) =>
        (.assignment path key v, rest)
    | _ => none

/-- The statements of a text; `fuel` bounds their number. -/
def statements? : Nat → List Char → Option (List Statement)
  | 0, _ => none
  | fuel + 1, cs =>
    match skipLines false cs with
    | none => none
    | some [] => some []
    | some cs =>
      match statement? cs with
      | none => none
      | some (s, rest) =>
        match afterRemark? (rest.dropWhile isGap) with
        | some [] => some [s]
        | some rest => if startsLineEnd rest then (statements? fuel rest).map (s :: ·) else none
        | none => none

/-- The entries that a text describes. A byte order mark may stand before it. -/
def ofText? (text : String) : Option Entries :=
  let cs := match text.toList with
    | '\uFEFF' :: cs => cs
    | cs => cs
  (statements? (cs.length + 1) cs).bind ofStatements

end CompileTree.Toml
