import CompileTree.Shell.Utility.Calls
import CompileTree.Text.Hex

/-! # Arguments from the input

A program is called with arguments that are read from the input: as words, as lines, or
as what stands between marks.
-/

namespace CompileTree.Shell.Utility

open Files Text

/-- How the input is cut, and how programs are called. -/
structure Feeding where
  /-- What ends an argument, if words are not cut at blanks. -/
  mark : Option Char
  /-- What is replaced by a whole line. -/
  place : Option String
  /-- How many lines, and how many words, one call gets at most. -/
  lines : Option Nat
  words : Option Nat
  size : Nat
  tells : Bool
  asks : Bool
  /-- Whether nothing is called if there are no arguments. -/
  needed : Bool
  most : Nat
  finish : Option String
  command : List String

/-- The words of a line, or the line as one word, and whether it goes on in the next one; an
    apostrophe or a quotation mark that is not closed is an error. -/
def lineWords (asOne : Bool) :
    Nat → Option (List Char) → List Char → Except String (List String × Bool)
  | 0, _, _ => .ok ([], false)
  | _, word, [] => .ok ((word.map fun w => String.ofList w.reverse).toList, false)
  | fuel + 1, word, c :: cs =>
    if !asOne ∧ (c = ' ' ∨ ('\t' ≤ c ∧ c ≤ '\r')) then do
      let (rest, open_) ← lineWords asOne fuel none cs
      return ((word.map fun w => String.ofList w.reverse).toList ++ rest, open_)
    else if c = '"' ∨ c = '\'' then
      let inner := cs.takeWhile (· ≠ c)
      match cs.drop inner.length with
      | [] =>
        .error ("unmatched " ++ (if c = '"' then "double" else "single") ++
          " quote; by default quotes are special to xargs unless you use the -0 option")
      | _ :: rest => lineWords asOne fuel (some (inner.reverse ++ word.getD [])) rest
    else if c = '\\' then
      match cs with
      | d :: rest => lineWords asOne fuel (some (d :: word.getD [])) rest
      | [] => .ok ((word.map fun w => String.ofList w.reverse).toList, true)
    else lineWords asOne fuel (some (c :: word.getD [])) cs

/-- What was read and not used yet, and what came of the calls. -/
structure Fed where
  words : List String
  lines : Nat
  size : Nat
  running : List Nat
  status : Nat
  called : Bool
  /-- Whether the end was reached because of what was read or what was called. -/
  ended : Bool
  /-- The start of a line that goes on in the next one. -/
  start : List Char

/-- A word as a shell would read it. -/
def toldWord (word : String) : String :=
  let isSafe (c : Char) : Bool :=
    c.isAlphanum || c ∈ ['_', '.', '/', ',', '@', '%', '+', '-', ':', '=', ']', '\x7b', '\x7d']
  if word ≠ "" && word.toList.all isSafe then word else shown word

namespace Feeding

/-- Take note of how a call has ended. -/
def settle (f : Feeding) (p : Process) (name : String) (st : Fed) (how : ExitStatus) : Act Fed := do
  let program := f.command.headD ""
  match how with
  | .exited 0 => return st
  | .exited 255 =>
    complain p name (program ++ ": exited with status 255; aborting")
    return { st with status := 124, ended := true }
  | .exited 126 => return { st with status := 126, ended := true }
  | .exited 127 => return { st with status := 127, ended := true }
  | .exited _ => return { st with status := 123 }
  | .signaled n =>
    complain p name (program ++ ": terminated by signal " ++ toString n)
    return { st with status := 125, ended := true }

/-- Wait until fewer calls go on than given; `fuel` bounds how many there are. -/
def await (f : Feeding) (p : Process) (name : String) (below : Nat) : Nat → Fed → Act Fed
  | 0, st => return st
  | fuel + 1, st => do
    if st.running.length < below then return st
    Act.waitUntil fun s => (s.endedChild? p.number st.running.contains).isSome
    match (← get).endedChild? p.number st.running.contains with
    | some (n, how) =>
      modify (·.forget n)
      let st ← f.settle p name { st with running := st.running.filter (· != n) } how
      f.await p name below fuel st
    | none => return { st with running := [] }

/-- Call the program with words. -/
def call (f : Feeding) (caller : Caller) (p : Process) (name : String) (words : List String)
    (st : Fed) : Act Fed := do
  if f.tells || f.asks then
    p.flush
    let line := " ".intercalate (words.map toldWord)
    if f.asks then
      if !(← confirmedFrom p (line ++ "?...")) then return { st with called := true }
    else
      let _ ← p.write 2 (line ++ "\n")
  let st ← f.await p name f.most (st.running.length + 1) st
  if st.ended then return st
  p.flush
  let index ← System.add ⟨.device .nothing, 0, true, false, false⟩
  let child := (← p.child).withDescriptor 0 index
  let program := words.headD ""
  let act : Act ExitStatus := do
    match findRunner (← get).files child program (words.drop 1) with
    | .ok (native, arguments) => caller child native arguments
    | .error .badFormat => caller child "sh" (Call.shellPath :: program :: words.drop 1)
    | .error e =>
      complain child name (program ++ ": " ++ e.text)
      return .exited (if Call.isAbsence e then 127 else 126)
  child.start act
  f.await p name f.most (st.running.length + 2)
    { st with running := st.running ++ [child.number], called := true }
where
  /-- Ask whether to go on; the answer comes from the terminal, which is not there. -/
  confirmedFrom (p : Process) (question : String) : Act Bool := do
    let _ ← p.write 2 question
    return false

/-- Call the program with the words that wait, if there are any. -/
def callWaiting (f : Feeding) (caller : Caller) (p : Process) (name : String) (st : Fed) :
    Act Fed := do
  if st.words.isEmpty then return st
  f.call caller p name (f.command ++ st.words) { st with words := [], lines := 0, size := 0 }

/-- Take one more word. -/
def take (f : Feeding) (caller : Caller) (p : Process) (name : String) (st : Fed) (word : String) :
    Act Fed := do
  if st.ended then return st
  if f.finish == some word then return { st with ended := true }
  let size := word.length + 1
  let base := (f.command.map (·.length + 1)).foldl (· + ·) 0
  let st ← if !st.words.isEmpty && f.size < base + st.size + size then f.callWaiting caller p name st
    else pure st
  if f.size < base + size then
    complain p name "argument line too long"
    return { st with status := 1, ended := true }
  let st := { st with words := st.words ++ [word], size := st.size + size }
  if f.words == some st.words.length then f.callWaiting caller p name st else return st

/-- Take a line or what ends with a mark. -/
def takeLine (f : Feeding) (caller : Caller) (p : Process) (name : String) (st : Fed)
    (line : List Char) : Act Fed := do
  match f.place with
  | some place =>
    let text : Except String (List String) := match f.mark with
      | some _ => .ok [String.ofList line]
      | none =>
        let bare := line.dropWhile fun c => c = ' ' || c = '\t'
        (lineWords true (bare.length + 1) none bare).map (·.1)
    match text with
    | .error e =>
      complain p name e
      return { st with status := 1, ended := true }
    | .ok [] => return st
    | .ok words =>
      let word := String.join words
      if f.finish == some word then return { st with ended := true }
      f.call caller p name (f.command.map fun (a : String) => a.replace place word) st
  | none =>
    match f.mark with
    | some _ => f.take caller p name st (String.ofList line)
    | none =>
      let cs := st.start ++ line
      match lineWords false (cs.length + 1) none cs with
      | .error e =>
        complain p name e
        return { st with status := 1, ended := true, words := [] }
      | .ok (_, true) => return { st with start := cs.dropLast ++ ['\\', '\n'] }
      | .ok (words, false) =>
        let mut st := { st with start := [] }
        for word in words do st ← f.take caller p name st word
        if words.isEmpty || st.ended then return st
        let goesOn := f.lines.isSome && (cs.getLast? == some ' ' || cs.getLast? == some '\t')
        if goesOn then return st
        st := { st with lines := st.lines + 1 }
        if f.lines.any (· ≤ st.lines) then f.callWaiting caller p name st else return st

end Feeding

/-- The character that a text stands for as a mark. -/
def markOf (text : String) : Char :=
  match text.toList with
  | '\\' :: 'x' :: ds => Char.ofNat ((hexNumber? ds).getD 0)
  | '\\' :: c :: cs => (Formatted.escape (c :: cs)).1
  | c :: _ => c
  | [] => '\x00'

/-- Call a program with arguments from the input. -/
def xargs : CallingProgram := fun caller p arguments => do
  let name := arguments.headD ""
  match (⟨['r', 't', '0', 'x', 'p', 'o'], ['n', 'I', 'd', 'P', 'L', 'E', 'a', 's'],
      [("--null", '0'), ("--arg-file", 'a'), ("--delimiter", 'd'), ("--replace?", 'ρ'),
        ("--max-lines?", 'λ'), ("--max-args", 'n'), ("--max-procs", 'P'), ("--max-chars", 's'),
        ("--no-run-if-empty", 'r'), ("--verbose", 't'), ("--exit", 'x'), ("--interactive", 'p'),
        ("--eof?", 'ε'), ("--open-tty", 'o'), ("--process-slot-var", 'φ')], true⟩ : Allowed).separate
      (spelled (arguments.drop 1)) with
  | .error text => return .exited (← misuse p name text 1)
  | .ok g =>
    let numbers := g.options.filter fun o => o.1 ∈ ['n', 'L', 'P', 's']
    match numbers.find? fun o => (number? o.2).isNone, numbers.find? fun o => o.1 ≠ 'P' && number? o.2 == some 0 with
    | some (letter, value), _ =>
      complain p name ("invalid number \"" ++ value ++ "\" for -" ++ String.singleton letter ++ " option")
      p.complain ("Try '" ++ name ++ " --help' for more information.")
      return .exited 1
    | none, some (letter, _) =>
      complain p name ("value 0 for -" ++ String.singleton letter ++ " option should be >= 1")
      p.complain ("Try '" ++ name ++ " --help' for more information.")
      return .exited 1
    | none, none =>
      let number (letter : Char) : Option Nat := (g.valueOf? letter).bind number?
      let last := (g.options.filter fun o => o.1 ∈ ['n', 'L', 'I', 'ρ', 'λ']).getLast?.map (·.1)
      let place := if last == some 'I' || last == some 'ρ' then
          some (((g.valueOf? 'I').orElse fun _ => g.valueOf? 'ρ').filter (· ≠ "") |>.getD "\x7b\x7d")
        else none
      let f : Feeding := {
        mark := match (g.options.filter fun o => o.1 ∈ ['0', 'd']).getLast? with
          | some ('0', _) => some '\x00'
          | some (_, text) => some (markOf text)
          | none => none
        place, lines := if last == some 'L' then number 'L'
          else if last == some 'λ' then some (((g.valueOf? 'λ').bind number?).getD 1) else none
        words := if last == some 'n' then number 'n' else none
        size := (number 's').getD 131072, tells := g.has 't', asks := g.has 'p', needed := g.has 'r'
        most := match number 'P' with
          | some 0 => 1000
          | some n => n
          | none => 1
        finish := (g.valueOf? 'E').filter (· ≠ ""),
        command := if g.operands.isEmpty then ["echo"] else g.operands }
      match ← openSource p ((g.valueOf? 'a').getD "-") with
      | .error e =>
        complain p name ("Cannot open input file " ++ shown ((g.valueOf? 'a').getD "-") ++ ": " ++ e.text)
        return .exited 1
      | .ok index =>
        let lineEnd := f.mark.getD '\n'
        let start : Fed := ⟨[], 0, 0, [], 0, false, false, []⟩
        let step (st : Fed) (line : List Char) (_ : Bool) : Act (Bool × Fed) := do
          let st ← f.takeLine caller p name st line
          return (!st.ended, st)
        match ← eachLine index lineEnd step start with
        | .error _ => return .exited 1
        | .ok st =>
          let st ← if st.status = 1 || (st.ended && 123 < st.status) then pure st
            else if !st.start.isEmpty then f.takeLine caller p name { st with start := [] } st.start.dropLast.dropLast
            else pure st
          let st ← if st.status = 1 || (st.ended && 123 < st.status) then pure st
            else f.callWaiting caller p name st
          let st ← if !st.called && !st.ended && !f.needed && f.place.isNone then
              f.call caller p name f.command st
            else pure st
          let st ← f.await p name 1 (st.running.length + 1) st
          return .exited st.status
where
  /-- Arguments in which options that may come with a value are spelled as long ones. -/
  spelled : List String → List String
    | [] => []
    | a :: rest =>
      if a.startsWith "-" && a.length = 2 && (a = "-n" || a = "-I" || a = "-d" || a = "-P" || a = "-L" ||
          a = "-E" || a = "-a" || a = "-s") then
        match rest with
        | value :: rest => a :: value :: spelled rest
        | [] => [a]
      else if !a.startsWith "-" || a = "--" then a :: rest
      else if a.startsWith "-i" then ("--replace=" ++ (a.drop 2).copy) :: spelled rest
      else if a.startsWith "-l" then ("--max-lines=" ++ (a.drop 2).copy) :: spelled rest
      else if a.startsWith "-e" then ("--eof=" ++ (a.drop 2).copy) :: spelled rest
      else a :: spelled rest

end CompileTree.Shell.Utility
