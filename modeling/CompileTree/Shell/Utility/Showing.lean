import CompileTree.Shell.Utility.Regex
import CompileTree.Shell.Utility.Streams

/-! # Utilities that show files

Files are written one after the other, as they are or with numbers and marks, from the
last line to the first, or as far as their first or last part.
-/

namespace CompileTree.Shell.Utility

open Files

/-- A number filled up with blanks before it. -/
def aligned (width n : Nat) : String :=
  let text := toString n
  "".pushn ' ' (width - text.length) ++ text

/-- Whether an open file is the one that the output goes to, with at least so many bytes. -/
def isOutputOf (p : Process) (index size : Nat) : Act Bool := do
  let s ← get
  match (p.descriptors.lookup 1).bind (s.openFiles[·]?), s.openFiles[index]? with
  | some ⟨.file l, _, _, _, _⟩, some ⟨.file k, _, _, _, _⟩ =>
    match s.files.get? k with
    | some (.file bytes _) => return k == l && size ≤ bytes.size
    | _ => return false
  | _, _ => return false

/-- Whether reading an open file would read what is written to the output. -/
def isOutput (p : Process) (index : Nat) : Act Bool := isOutputOf p index 1

/-- How texts are shown. -/
structure Show where
  numbers : Bool
  /-- Whether empty lines have no numbers. -/
  sparing : Bool
  squeezes : Bool
  ends : Bool
  tabs : Bool
  controls : Bool

/-- How far a text was shown: the last number, how many line ends stand last, and whether a
    carriage return waits for what follows it. -/
structure Shown where
  number : Nat
  ends : Nat
  carriage : Bool

/-- What stands for a character. -/
def Show.spelled (w : Show) (c : Char) : List Char :=
  let plain (n : Nat) : List Char :=
    if n < 32 then ['^', Char.ofNat (n + 64)]
    else if n = 127 then ['^', '?']
    else [Char.ofNat n]
  if c = '\t' then if w.tabs then ['^', 'I'] else ['\t']
  else if !w.controls then [c]
  else if c.toNat < 128 then plain c.toNat
  else 'M' :: '-' :: plain (c.toNat - 128)

/-- Show characters; what is shown comes in front of `done`, the last character first. -/
def Show.text (w : Show) : List Char → Shown → List Char → Shown × List Char
  | [], st, done => (st, done)
  | '\n' :: cs, st, done =>
    let isEmpty := 0 < st.ends
    if w.squeezes && 1 < st.ends then w.text cs st done
    else
      let counts := isEmpty && w.numbers && !w.sparing
      let number := if counts then st.number + 1 else st.number
      let start := if counts then ((aligned 6 number) ++ "\t").toList.reverse else []
      let carriage := if st.carriage then (if w.ends then ['M', '^'] else ['\r']) else []
      let done := '\n' :: (if w.ends then ['$'] else []) ++ carriage ++ start ++ done
      w.text cs ⟨number, if isEmpty then 2 else 1, false⟩ done
  | c :: cs, st, done =>
    let counts := 0 < st.ends && w.numbers
    let number := if counts then st.number + 1 else st.number
    let start := if counts then ((aligned 6 number) ++ "\t").toList.reverse else []
    let waiting := if st.carriage then ['\r'] else []
    if c = '\r' && w.ends && !w.controls then
      w.text cs ⟨number, 0, true⟩ (start ++ waiting ++ done)
    else w.text cs ⟨number, 0, false⟩ ((w.spelled c).reverse ++ start ++ waiting ++ done)

/-- Write files one after the other. -/
def cat : Program :=
  withOptions ⟨['A', 'b', 'e', 'E', 'n', 's', 't', 'T', 'u', 'v'], [],
      [("--number-nonblank", 'b'), ("--number", 'n'), ("--squeeze-blank", 's'),
        ("--show-nonprinting", 'v'), ("--show-ends", 'E'), ("--show-tabs", 'T'),
        ("--show-all", 'A')], false⟩ 1 fun p name g => do
    if (p.descriptors.lookup 1).isNone then
      complain p name ("standard output: " ++ Error.badDescriptor.text)
      return 1
    let all := g.has 'A'
    let w : Show :=
      { numbers := g.has 'n' || g.has 'b', sparing := g.has 'b', squeezes := g.has 's'
        ends := all || g.has 'E' || g.has 'e', tabs := all || g.has 'T' || g.has 't'
        controls := all || g.has 'v' || g.has 'e' || g.has 't' }
    let isPlain := !(w.numbers || w.squeezes || w.ends || w.tabs || w.controls)
    let step (st : Shown) (text : String) : Act (Bool × Shown) := do
      if isPlain then
        p.sayNow text
        return (!(← isLost p), st)
      let (st, done) := w.text text.toList st []
      p.sayNow (String.ofList done.reverse)
      return (!(← isLost p), st)
    let mut st : Shown := ⟨0, 1, false⟩
    let mut fine := true
    for file in orInput g.operands do
      if ← isLost p then return 1
      match ← openSource p file with
      | .error e =>
        complain p name (shownIfNeeded file ++ ": " ++ e.text)
        fine := false
      | .ok index =>
        if ← isOutput p index then
          complain p name (shownIfNeeded file ++ ": input file is output file")
          fine := false
        else
          match ← eachBlock index step st with
          | .ok after => st := after
          | .error e =>
            complain p name (shownIfNeeded file ++ ": " ++ e.text)
            fine := false
    if st.carriage then p.say "\r"
    return statusOf fine

/-- Whether characters start with others. -/
def startsWith (start cs : List Char) : Bool := start.isPrefixOf cs

/-- The pieces of a text that end with a separator, the last one first; `piece` is what was
    read of one, the last character first. -/
def piecesEnded (separator : List Char) : Nat → List Char → List Char → List (List Char) →
    List (List Char)
  | 0, _, piece, done => piece.reverse :: done
  | _ + 1, [], piece, done => if piece.isEmpty then done else piece.reverse :: done
  | fuel + 1, c :: cs, piece, done =>
    if startsWith separator (c :: cs) then
      piecesEnded separator fuel ((c :: cs).drop separator.length) []
        ((separator.reverse ++ piece).reverse :: done)
    else piecesEnded separator fuel cs (c :: piece) done

/-- The pieces of a text that start with a separator, the last one first. -/
def piecesStarted (separator : List Char) : Nat → List Char → List Char → List (List Char) →
    List (List Char)
  | 0, _, piece, done => piece.reverse :: done
  | _ + 1, [], piece, done => if piece.isEmpty then done else piece.reverse :: done
  | fuel + 1, c :: cs, piece, done =>
    if startsWith separator (c :: cs) then
      piecesStarted separator fuel ((c :: cs).drop separator.length) separator.reverse
        (if piece.isEmpty then done else piece.reverse :: done)
    else piecesStarted separator fuel cs (c :: piece) done

/-- Write files from their last line to their first. -/
def tac : Program :=
  withOptions ⟨['b', 'r'], ['s'], [("--before", 'b'), ("--regex", 'r'), ("--separator", 's')],
      false⟩ 1 fun p name g => do
    let separator := ((g.valueOf? 's').getD "\n").toList
    let separator := if separator.isEmpty then ['\x00'] else separator
    let fine ← eachFile (orInput g.operands) fun file => do
      match ← openSource p file with
      | .error e =>
        complain p name ("failed to open " ++ shown file ++ " for reading: " ++ e.text)
        return false
      | .ok index =>
        match ← System.read index none with
        | .error e =>
          complain p name (shownIfNeeded file ++ ": read error: " ++ e.text)
          return false
        | .ok bytes =>
          let cs := (Text.ofBytes bytes).toList
          let split := if g.has 'b' then piecesStarted else piecesEnded
          for piece in split separator (cs.length + 1) cs [] [] do p.say (String.ofList piece)
          return true
    return statusOf fine

/-- Write the lines of files with their characters from the last to the first. -/
def rev : Program :=
  withOptions ⟨['0'], [], [("--zero", '0')], false⟩ 1 fun p name g => do
    let lineEnd := lineEndFor (g.has '0')
    let fine ← eachFile (orInput g.operands) fun file => do
      match ← openSource p file with
      | .error e =>
        complain p name ("cannot open " ++ file ++ ": " ++ e.text)
        return false
      | .ok index =>
        let result ← eachLine index lineEnd (fun () line ended => do
          p.say (String.ofList (line.reverse ++ if ended then [lineEnd] else []))
          return (true, ())) ()
        match result with
        | .ok () => return true
        | .error e =>
          complain p name (file ++ ": " ++ e.text)
          return false
    return statusOf fine

/-- How lines are numbered. -/
inductive Numbering where
  | all
  | filled
  | none
  | matching (r : Regex)

/-- The numbering that a text spells. -/
def Numbering.ofText? (text : String) : Option Numbering :=
  match text.toList with
  | ['a'] => some .all
  | ['t'] => some .filled
  | ['n'] => some .none
  | 'p' :: pattern =>
    match (Regex.Dialect.seeking false).read pattern with
    | .ok (r, _) => some (.matching r)
    | .error _ => none
  | _ => none

/-- Whether a line has a number, where `blanks` empty lines stand last and every one of
    `joined` has a number. -/
def Numbering.counts (n : Numbering) (line : List Char) (blanks joined : Nat) : Bool :=
  match n with
  | .all => !line.isEmpty || joined ≤ 1 || blanks % joined = 0
  | .filled => !line.isEmpty
  | .none => false
  | .matching r => r.occurs id (String.ofList line)

/-- A number in a column: at its left, or at its right with blanks or zeros before it. -/
def numbered (format : String) (width : Nat) (n : Int) : String :=
  let digits := toString n
  if format = "ln" then digits ++ "".pushn ' ' (width - digits.length)
  else if format = "rz" then
    let sign := if n < 0 then "-" else ""
    let digits := toString n.natAbs
    sign ++ "".pushn '0' (width - sign.length - digits.length) ++ digits
  else "".pushn ' ' (width - digits.length) ++ digits

/-- Where the numbering of lines has got. -/
structure Counter where
  number : Int
  section_ : Nat
  blanks : Nat

/-- Write files with numbers before their lines. -/
def nl : Program :=
  withOptions ⟨['p'], ['b', 'd', 'f', 'h', 'i', 'l', 'n', 's', 'v', 'w'],
      [("--body-numbering", 'b'), ("--section-delimiter", 'd'), ("--footer-numbering", 'f'),
        ("--header-numbering", 'h'), ("--line-increment", 'i'), ("--join-blank-lines", 'l'),
        ("--number-format", 'n'), ("--no-renumber", 'p'), ("--number-separator", 's'),
        ("--starting-line-number", 'v'), ("--number-width", 'w')], false⟩ 1 fun p name g => do
    let int (letter : Char) (default : Int) : Int :=
      ((g.valueOf? letter).bind String.toInt?).getD default
    let style (letter : Char) (default : String) : Option Numbering :=
      Numbering.ofText? ((g.valueOf? letter).getD default)
    let what (letter : Char) : String :=
      if letter = 'b' then "body" else if letter = 'h' then "header" else "footer"
    for (letter, value) in g.options do
      if letter ∈ ['b', 'f', 'h'] && (Numbering.ofText? value).isNone then
        return ← misuse p name ("invalid " ++ what letter ++ " numbering style: " ++ marked value) 1
      if letter = 'n' && value ∉ ["ln", "rn", "rz"] then
        return ← misuse p name ("invalid line numbering format: " ++ marked value) 1
      if letter = 'w' && (value.toInt?.all (· ≤ 0)) then
        complain p name ("invalid line number field width: " ++ marked value ++
          (if value.toInt?.isSome then ": Numerical result out of range" else ""))
        return 1
      if letter = 'v' && value.toInt?.isNone then
        complain p name ("invalid starting line number: " ++ marked value)
        return 1
      if letter = 'i' && value.toInt?.isNone then
        complain p name ("invalid line number increment: " ++ marked value)
        return 1
    match style 'h' "n", style 'b' "t", style 'f' "n" with
    | some header, some body, some footer =>
      let width := (int 'w' 6).toNat
      let separator := (g.valueOf? 's').getD "\t"
      let format := (g.valueOf? 'n').getD "rn"
      let delimiter := match ((g.valueOf? 'd').getD "\\:").toList with
        | [c] => [c, ':']
        | cs => cs
      let joined := (int 'l' 1).toNat
      let step (st : Counter) (line : List Char) (_ : Bool) : Act (Bool × Counter) := do
        let times := if delimiter.isEmpty then 0
          else ([1, 2, 3].find? fun k => line = (List.replicate k delimiter).flatten).getD 0
        if times ≠ 0 then
          p.say "\n"
          let number := if g.has 'p' then st.number else int 'v' 1
          return (true, { st with number, section_ := 3 - times })
        let style := match st.section_ with
          | 0 => header
          | 1 => body
          | _ => footer
        let blanks := if line.isEmpty then st.blanks + 1 else 0
        let counts := style.counts line blanks joined
        let start := if counts then numbered format width st.number ++ separator
          else "".pushn ' ' (width + separator.length)
        p.say (start ++ String.ofList line ++ "\n")
        let blanks := if counts then 0 else blanks
        return (true, { st with number := if counts then st.number + int 'i' 1 else st.number, blanks })
      let mut st : Counter := ⟨int 'v' 1, 1, 0⟩
      let mut fine := true
      for file in orInput g.operands do
        match ← openSource p file with
        | .error e =>
          complain p name (shownIfNeeded file ++ ": " ++ e.text)
          fine := false
        | .ok index =>
          match ← eachLine index '\n' step st with
          | .ok after => st := after
          | .error e =>
            complain p name (shownIfNeeded file ++ ": " ++ e.text)
            fine := false
      return statusOf fine
    | _, _, _ => return 1

/-- Write the input to the output and to files. -/
def tee : Program :=
  withOptions ⟨['a', 'i', 'p'], [],
      [("--append", 'a'), ("--ignore-interrupts", 'i'), ("--output-error?", 'p')], false⟩ 1
    fun p name g => do
      let mut targets : List Nat := []
      let mut fine := true
      for file in g.operands do
        match ← p.openFile file (if g.has 'a' then .append else .write) with
        | .ok index => targets := targets ++ [index]
        | .error e =>
          complain p name (shownIfNeeded file ++ ": " ++ e.text)
          fine := false
      match ← openSource p "-" with
      | .error e =>
        complain p name ("read error: " ++ e.text)
        return 1
      | .ok index =>
        let outputs := targets
        let result ← eachBlock index (fun () text => do
          p.sayNow text
          for target in outputs do
            let _ ← System.write p.number target (Text.toBytes text)
          return (true, ())) ()
        match result with
        | .ok () => return statusOf fine
        | .error e =>
          complain p name ("read error: " ++ e.text)
          return 1

end CompileTree.Shell.Utility
