import CompileTree.Shell.Utility.Streams

/-! # Utilities that show the first or the last part of files

A part is so many lines or bytes, counted from the near side or from the far side.
-/

namespace CompileTree.Shell.Utility

open Files Text

/-- What part of a text is meant. -/
structure Extract where
  bytes : Bool
  count : Nat
  /-- Whether the count tells where the part begins or ends at the far side. -/
  fromFar : Bool
  lineEnd : Char

namespace Extract

/-- The lines of a text with their ends. -/
def fullLines (x : Extract) (cs : List Char) : List (List Char) :=
  let lines := cs.splitOn x.lineEnd
  lines.dropLast.map (· ++ [x.lineEnd]) ++ (if lines.getLastD [] = [] then [] else [lines.getLastD []])

/-- All of a text but the last part. -/
def allBut (x : Extract) (cs : List Char) : List Char :=
  if x.bytes then cs.take (cs.length - x.count)
  else
    let ls := x.fullLines cs
    (ls.take (ls.length - x.count)).flatten

/-- The last part of a text. -/
def last (x : Extract) (cs : List Char) : List Char :=
  if x.bytes then cs.drop (cs.length - x.count)
  else
    let ls := x.fullLines cs
    (ls.drop (ls.length - x.count)).flatten

/-- The text from a place on. -/
def since (x : Extract) (cs : List Char) : List Char :=
  if x.bytes then cs.drop (x.count - 1) else ((x.fullLines cs).drop (x.count - 1)).flatten

/-- Write the first bytes of an open file; `fuel` bounds the number of pieces. -/
def firstBytes (p : Process) (index : Nat) : Nat → Nat → Act (Except Error Unit)
  | 0, _ => return .ok ()
  | fuel + 1, count => do
    if count = 0 then return .ok ()
    match ← System.readSome index (min count 8192) with
    | .error e => return .error e
    | .ok bytes =>
      if bytes.isEmpty then return .ok ()
      p.say (ofBytes bytes)
      firstBytes p index fuel (count - bytes.size)

/-- Write the first lines of an open file. -/
def firstLines (x : Extract) (p : Process) (index : Nat) : Act (Except Error Unit) := do
  if x.count = 0 then return .ok ()
  let result ← foldLines index 8192 x.lineEnd (fun n line ended => do
    p.say (String.ofList (line ++ if ended then [x.lineEnd] else []))
    return (n + 1 < x.count, n + 1)) System.turnLimit [] 0
  return result.map fun _ => ()

/-- Write a part of an open file that needs all of it. -/
def whole (p : Process) (index : Nat) (part : List Char → List Char) : Act (Except Error Unit) := do
  match ← System.read index none with
  | .error e => return .error e
  | .ok bytes =>
    p.say (String.ofList (part (ofBytes bytes).toList))
    return .ok ()

/-- Write the first part of an open file. -/
def head (x : Extract) (p : Process) (index : Nat) : Act (Except Error Unit) :=
  if x.fromFar then whole p index x.allBut
  else if x.bytes then firstBytes p index System.turnLimit x.count
  else x.firstLines p index

/-- Write the last part of an open file. -/
def tail (x : Extract) (p : Process) (index : Nat) : Act (Except Error Unit) := do
  if !x.fromFar then whole p index x.last
  else if x.bytes then whole p index x.since
  else
    let result ← eachLine index x.lineEnd (fun n line ended => do
      if x.count ≤ n then p.say (String.ofList (line ++ if ended then [x.lineEnd] else []))
      return (true, n + 1)) 1
    return result.map fun _ => ()

end Extract

/-- The letters that may stand behind a number in place of an option. -/
def countLetters : List Char := ['b', 'c', 'k', 'l', 'm', 'q', 'v', 'z', 'f']

/-- Arguments in which a hyphen with a number is spelled as an option. -/
def spelledCount (arguments : List String) : List String :=
  match arguments with
  | name :: a :: rest =>
    match a.toList with
    | '-' :: c :: cs =>
      let digits := (c :: cs).takeWhile Char.isDigit
      let letters := (c :: cs).drop digits.length
      if c.isDigit && letters.all countLetters.contains then
        let unit := letters.filter (· ∈ ['b', 'k', 'm'])
        let kind := if letters.contains 'c' || !unit.isEmpty then "-c" else "-n"
        let others := letters.filter (· ∈ ['q', 'v', 'z', 'f'])
        name :: (kind ++ String.ofList (digits ++ unit.take 1)) ::
          (if others.isEmpty then [] else ["-" ++ String.ofList others]) ++ rest
      else name :: a :: rest
    | _ => name :: a :: rest
  | short => short

/-- Write a part of files; `far` is the sign of counts from the far side. -/
def extract (far : Char) (write : Extract → Process → Nat → Act (Except Error Unit)) : Program :=
  fun p arguments =>
  withOptions ⟨['q', 'v', 'z', 'f', 'F'], ['n', 'c', 's', 'π'],
      [("--lines", 'n'), ("--bytes", 'c'), ("--quiet", 'q'), ("--silent", 'q'),
        ("--verbose", 'v'), ("--zero-terminated", 'z'), ("--follow?", 'f'), ("--pid", 'π'),
        ("--sleep-interval", 's'), ("--retry", 'ρ')], false⟩ 1
    (fun p name g => do
      let asked := (g.options.filter fun o => o.1 == 'n' || o.1 == 'c').getLast?
      let (letter, value) := asked.getD ('n', "10")
      let (fromFar, digits) := match value.toList with
        | c :: cs => if c == far then (true, String.ofList cs)
          else if c == '+' || c == '-' then (false, String.ofList cs) else (false, value)
        | [] => (false, "")
      match scaled? digits with
      | none =>
        let unit := if letter = 'c' then "bytes" else "lines"
        complain p name ("invalid number of " ++ unit ++ ": " ++ marked
          (if value.startsWith "-" then digits else value))
        return 1
      | some count =>
        let x : Extract := ⟨letter == 'c', count, fromFar, lineEndFor (g.has 'z')⟩
        let wish := (g.options.filter fun o => o.1 == 'q' || o.1 == 'v').getLast?
        let headers : Bool := match wish with
          | some (letter, _) => letter == 'v'
          | none => 1 < g.operands.length
        let mut first := true
        let mut fine := true
        let mut opened : List (String × Nat) := []
        for file in orInput g.operands do
          match ← openSource p file with
          | .error e =>
            complain p name ("cannot open " ++ shown file ++ " for reading: " ++ e.text)
            fine := false
          | .ok index =>
            let title := if file = "-" then "standard input" else file
            if headers then
              p.say ((if first then "" else "\n") ++ "==> " ++ title ++ " <==\n")
            first := false
            match ← write x p index with
            | .ok () => opened := opened ++ [(title, index)]
            | .error e =>
              complain p name ("error reading " ++ shown title ++ ": " ++ e.text)
              fine := false
        if g.has 'f' || g.has 'F' then
          p.flush
          follow p headers opened ((opened.getLast?.map (·.1)).getD "") System.turnLimit
        return statusOf fine) p (spelledCount arguments)
where
  grown (p : Process) (headers : Bool) (last : String) : List (String × Nat) → Act String
    | [] => return last
    | (title, index) :: rest => do
      match ← System.read index none with
      | .error _ => grown p headers last rest
      | .ok bytes =>
        if bytes.isEmpty then grown p headers last rest
        else
          if headers && title ≠ last then p.say ("\n==> " ++ title ++ " <==\n")
          p.sayNow (ofBytes bytes)
          grown p headers title rest
  follow (p : Process) (headers : Bool) (opened : List (String × Nat)) (last : String) :
      Nat → Act Unit
    | 0 => return
    | fuel + 1 => do
      let now := (← get).clock
      Act.waitUntilTime (fun _ => false) (now + 1000000000)
      let last ← grown p headers last opened
      if opened.isEmpty then return
      follow p headers opened last fuel

end CompileTree.Shell.Utility
