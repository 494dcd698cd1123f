import CompileTree.Shell.Utility.Streams

/-! # Counting

How many lines, words and bytes files hold, and how wide their widest lines are.
-/

namespace CompileTree.Shell.Utility

open Files Text

/-- What was counted. -/
structure Counts where
  lines : Nat
  words : Nat
  bytes : Nat
  widest : Nat
  /-- Whether a word goes on, and how wide the line is so far. -/
  inWord : Bool
  column : Nat

namespace Counts

/-- Nothing was counted. -/
def zero : Counts := ⟨0, 0, 0, 0, false, 0⟩

/-- Count a character. -/
def char (n : Counts) (c : Char) : Counts :=
  let isGap := c == ' ' || ('\t' ≤ c && c ≤ '\r')
  let column := match c with
    | '\n' | '\r' | '\x0c' => 0
    | '\t' => n.column + 8 - n.column % 8
    | c => if ' ' ≤ c && c ≤ '~' then n.column + 1 else n.column
  { lines := if c == '\n' then n.lines + 1 else n.lines
    words := if !isGap && !n.inWord then n.words + 1 else n.words
    bytes := n.bytes + 1
    widest := max n.widest column
    inWord := !isGap
    column }

/-- Count characters. -/
def text (n : Counts) (cs : List Char) : Counts := cs.foldl char n

/-- The counts of two files together. -/
def add (a b : Counts) : Counts :=
  ⟨a.lines + b.lines, a.words + b.words, a.bytes + b.bytes, max a.widest b.widest, false, 0⟩

end Counts

/-- The size of a plain file that is counted; a directory or a pipe has none. -/
def plainSize? (p : Process) (file : String) : Act (Except Error (Option Nat)) := do
  let s ← get
  let sizeAt (l : Location) : Option Nat :=
    match s.files.get? l with
    | some (.file bytes _) => some bytes.size
    | _ => none
  if file = "-" then
    match (p.descriptors.lookup 0).bind (s.openFiles[·]?) with
    | some ⟨.file l, _, _, _, _⟩ => return .ok (sizeAt l)
    | some ⟨.buffer bytes, _, _, _, _⟩ => return .ok (some bytes.size)
    | some _ => return .ok none
    | none => return .error .badDescriptor
  else
    match p.placeIn s true file with
    | .ok (l, _) => return .ok (sizeAt l)
    | .error e => return .error e

/-- How wide columns of counts are. -/
def countWidth (sizes : List (Except Error (Option Nat))) : Nat :=
  let known := sizes.filterMap Except.toOption
  let total := (known.filterMap id).foldl (· + ·) 0
  let digits := (toString total).length
  if known.any (·.isNone) then max 7 digits else digits

/-- Count what is in files. -/
def wc : Program :=
  withOptions ⟨['c', 'm', 'l', 'L', 'w'], ['φ', 'τ'],
      [("--bytes", 'c'), ("--chars", 'm'), ("--lines", 'l'), ("--words", 'w'),
        ("--files0-from", 'φ'), ("--max-line-length", 'L'), ("--total", 'τ')], false⟩ 1
    fun p name g => do
      let counting := g.options.any fun o => o.1 ∈ ['c', 'm', 'l', 'L', 'w']
      let total := (g.valueOf? 'τ').getD "auto"
      if total ∉ ["auto", "always", "only", "never"] then
        complain p name ("invalid argument " ++ shown total ++ " for '--total'")
        p.complain ("Valid arguments are:\n  - 'auto'\n  - 'always'\n  - 'only'\n  - 'never'")
        p.complain ("Try '" ++ name ++ " --help' for more information.")
        return 1
      let columns (n : Counts) : List Nat :=
        (if !counting || g.has 'l' then [n.lines] else []) ++
        (if !counting || g.has 'w' then [n.words] else []) ++
        (if g.has 'm' then [n.bytes] else []) ++
        (if !counting || g.has 'c' then [n.bytes] else []) ++
        (if g.has 'L' then [n.widest] else [])
      let listed := g.valueOf? 'φ'
      if listed.isSome && !g.operands.isEmpty then
        complain p name ("extra operand " ++ shown (g.operands.headD ""))
        p.complain "file operands cannot be combined with --files0-from"
        p.complain ("Try '" ++ name ++ " --help' for more information.")
        return 1
      let files ← match listed with
        | none => pure (.ok (orInput g.operands))
        | some source => do
          match ← content p source with
          | .ok text => pure (Except.ok (((text.toList.splitOn '\x00').filter (· ≠ [])).map String.ofList))
          | .error e => pure (.error ("cannot open " ++ shown source ++ " for reading: " ++ e.text))
      match files with
      | .error text =>
        complain p name text
        return 1
      | .ok files =>
        let sizes ← files.mapM (plainSize? p)
        let width := if listed.isSome || (files.length = 1 && (columns .zero).length = 1) then 1
          else countWidth sizes
        let write (n : Counts) (title : Option String) : Act Unit :=
          let cells := (columns n).map fun k =>
            let digits := toString k
            "".pushn ' ' (width - digits.length) ++ digits
          p.say (" ".intercalate (cells ++ title.toList) ++ "\n")
        let mut sum := Counts.zero
        let mut fine := true
        for file in files do
          if file = "" then
            complain p name "invalid zero-length file name"
            fine := false
          else
          match ← openSource p file with
          | .error e =>
            complain p name (shownIfNeeded file ++ ": " ++ e.text)
            fine := false
          | .ok index =>
            let result ← eachBlock index (fun (n : Counts) text => return (true, n.text text.toList)) .zero
            let n := match result with
              | .ok n => n
              | .error _ => .zero
            if let .error e := result then
              complain p name (shownIfNeeded file ++ ": " ++ e.text)
              fine := false
            sum := sum.add n
            let title := if listed.isNone && g.operands.isEmpty then none
              else some (if '\n' ∈ file.toList then shownIfNeeded file else file)
            if total ≠ "only" then write n title
        if total = "always" || total = "only" || (total = "auto" && 1 < files.length) then
          write sum (if total = "only" then none else some "total")
        return statusOf fine

end CompileTree.Shell.Utility
