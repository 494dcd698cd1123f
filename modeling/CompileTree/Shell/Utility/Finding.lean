import CompileTree.Shell.Utility.Calls
import CompileTree.Shell.Utility.Listings
import CompileTree.Shell.Utility.Matching

/-! # Finding files

What stands below some paths is put to a condition, whose parts ask about files or do
something with them.
-/

namespace CompileTree.Shell.Utility

open Files Text

/-- How a number is compared with one that is asked for. -/
inductive Bound where
  | less
  | exactly
  | more
  deriving DecidableEq

/-- Whether a number is as asked for. -/
def Bound.holds (b : Bound) (n asked : Nat) : Bool :=
  match b with
  | .less => n < asked
  | .exactly => n == asked
  | .more => asked < n

/-- A question about a file. -/
inductive FileTest where
  | yes
  | no
  | name (pattern : String) (folds : Bool)
  | path (pattern : String) (folds : Bool)
  | target (pattern : String) (folds : Bool)
  | regex (r : Regex) (folds : Bool)
  | kind (letters : List Char) (other : Bool)
  | size (b : Bound) (count unit : Nat)
  | empty
  | newer (time : Int)
  /-- How many units of time lie since the last change. -/
  | age (b : Bound) (count unit : Nat)
  | mode (bits : Nat) (how : Char)
  | links (b : Bound) (count : Nat)
  | number (b : Bound) (count : Nat)
  | same (l : Location)
  | owner (known : Bool)
  | usable (how : Char)

/-- What is done with a file. -/
inductive FileAction where
  | print (lineEnd : Char) (output : Option String)
  | format (text : List Char) (output : Option String)
  | list
  | delete
  | prune
  | quit
  /-- Call a program; whether that is done in the directory of the file, and whether one is
      asked first. -/
  | call (words : List String) (inDirectory asks : Bool)
  /-- Call a program with many files; the number tells such actions apart. -/
  | gather (words : List String) (inDirectory : Bool) (number : Nat)

/-- A condition on files. -/
inductive FileCondition where
  | test (t : FileTest)
  | action (a : FileAction)
  | opposite (c : FileCondition)
  | both (a b : FileCondition)
  | either (a b : FileCondition)
  /-- Both are put, and the second one counts. -/
  | after (a b : FileCondition)

/-- Whether a condition does something that takes the place of printing. -/
def FileCondition.acts : FileCondition → Bool
  | .test _ => false
  | .action .prune | .action .quit => false
  | .action _ => true
  | .opposite c => c.acts
  | .both a b | .either a b | .after a b => a.acts || b.acts

/-- What holds for the whole search. -/
structure Finding where
  least : Nat
  most : Option Nat
  /-- Whether what a directory holds comes before itself. -/
  deep : Bool
  follows : Bool
  followsNamed : Bool
  dialect : String
  /-- How many actions gather files. -/
  gatherings : Nat
  /-- The files that are written to. -/
  outputs : List String

/-- What is read of the arguments. -/
structure FindReading where
  rest : List String
  finding : Finding

/-- Steps in which a condition is read. -/
abbrev FindReader := StateT FindReading (Except String)

namespace FileCondition

/-- A word between a backtick and an apostrophe. -/
def ticked (word : String) : String := "\x60" ++ word ++ "'"

/-- The argument of a part of a condition. -/
def argument (part : String) : FindReader String := do
  match (← get).rest with
  | a :: rest =>
    modify fun s => { s with rest }
    return a
  | [] => throw ("missing argument to " ++ ticked part)

/-- A number with the sign that tells how it is compared. -/
def bounded? (text : String) : Option (Bound × List Char) :=
  match text.toList with
  | '+' :: cs => some (.more, cs)
  | '-' :: cs => some (.less, cs)
  | cs => some (.exactly, cs)

/-- A number with its sign and nothing else. -/
def boundedNumber (part text : String) : FindReader (Bound × Nat) := do
  match bounded? text with
  | some (b, cs) =>
    match number? (String.ofList cs) with
    | some n => return (b, n)
    | none => throw ("invalid argument '" ++ text ++ "' to '" ++ part ++ "'")
  | none => throw ("invalid argument '" ++ text ++ "' to '" ++ part ++ "'")

/-- A number without a sign. -/
def plainNumber (part text : String) : FindReader Nat := do
  match number? text with
  | some n => return n
  | none => throw ("Expected a positive decimal integer argument to " ++ part ++ ", but got '" ++ text ++ "'")

/-- A size with its unit. -/
def sizeTest (text : String) : FindReader FileTest := do
  let fail {α : Type} : FindReader α :=
    throw ("invalid -size type " ++ ticked (String.ofList (text.toList.drop (text.length - 1))))
  match bounded? text with
  | none => fail
  | some (b, cs) =>
    let digits := cs.takeWhile Char.isDigit
    let unit? := match cs.drop digits.length with
      | [] | ['b'] => some 512
      | ['c'] => some 1
      | ['w'] => some 2
      | ['k'] => some 1024
      | ['M'] => some 1048576
      | ['G'] => some 1073741824
      | _ => none
    match unit?, digits with
    | some unit, d :: ds => return .size b (Nat.ofDigitChars 10 (d :: ds) 0) unit
    | _, _ => fail

/-- A test for bits of a mode. -/
def modeTest (text : String) : FindReader FileTest := do
  let (how, body) := match text.toList with
    | '-' :: cs => ('-', cs)
    | '/' :: cs => ('/', cs)
    | cs => ('=', cs)
  match Mode.change? (String.ofList body) with
  | some c => return .mode (c.apply 0 0 false) how
  | none => throw ("invalid mode '" ++ text ++ "'")

/-- The place of a file that a part of a condition names. -/
def placeNamed (t : Tree) (p : Process) (file : String) : FindReader Location := do
  match t.entry p.working true (Process.path file) with
  | .ok (l, _) => return l
  | .error e => throw (shown file ++ ": " ++ e.text)

/-- The words of a call, up to what ends it; whether that is a plus sign. -/
def callWords (part : String) : FindReader (List String × Bool) := do
  let rest := (← get).rest
  let rec go (before : Option String) : List String → Option (List String × Bool × List String)
    | [] => none
    | ";" :: rest => some ([], false, rest)
    | w :: rest =>
      if w = "+" && before == some "\x7b\x7d" then some ([], true, rest)
      else (go (some w) rest).map fun (ws, plus, left) => (w :: ws, plus, left)
  match go none rest with
  | none | some ([], _, _) => throw ("missing argument to " ++ ticked part)
  | some (words, plus, rest) =>
    modify fun s => { s with rest }
    if plus then
      if 1 < words.count "\x7b\x7d" then
        throw ("Only one instance of \x7b\x7d is supported with " ++ part ++ " ... +")
      if let some bad := words.find? fun w => w.contains "\x7b\x7d" && w ≠ "\x7b\x7d" then
        throw ("In '" ++ part ++ " ... \x7b\x7d +' the '\x7b\x7d' must appear by itself, but you specified '" ++
          bad ++ "'")
    return (words, plus)

/-- An expression for whole paths, in the spelling that is in force. -/
def pathRegex (dialect text : String) : FindReader Regex := do
  let isExtended := dialect ∈ ["posix-extended", "posix-egrep", "egrep", "awk", "posix-awk", "gnu-awk"]
  let rec spelled : List Char → List Char
    | '\\' :: c :: cs => '\\' :: c :: spelled cs
    | c :: cs => if c = '+' || c = '?' then '\\' :: c :: spelled cs else c :: spelled cs
    | [] => []
  let cs := if dialect = "" || dialect = "emacs" then spelled text.toList else text.toList
  match (Regex.Dialect.seeking isExtended).read cs with
  | .ok (r, _) => return boundedBy true false r
  | .error e => throw ("failed to compile regular expression '" ++ text ++ "': " ++ e)

/-- A part of a condition that starts with a hyphen. -/
def part (t : Tree) (p : Process) (now : Int) (word : String) : FindReader FileCondition := do
  let test (f : FileTest) : FindReader FileCondition := return .test f
  let folded (make : String → Bool → FileTest) (folds : Bool) : FindReader FileCondition := do
    return .test (make (← argument word) folds)
  let setting (f : Finding → Finding) : FindReader FileCondition := do
    modify fun s => { s with finding := f s.finding }
    return .test .yes
  let kinds (other : Bool) : FindReader FileCondition := do
    let text ← argument word
    let letters := (text.toList.splitOn ',')
    match letters.find? fun cs => cs.length ≠ 1 || !cs.all (· ∈ ['b', 'c', 'd', 'p', 'f', 'l', 's', 'D']) with
    | some bad =>
      throw ("Unknown argument to " ++ word ++ ": " ++ String.ofList (bad.take 1))
    | none => return .test (.kind letters.flatten other)
  let age (unit : Nat) : FindReader FileCondition := do
    let (b, n) ← boundedNumber word (← argument word)
    return .test (.age b n unit)
  let output : FindReader String := do
    let file ← argument word
    modify fun s => { s with finding.outputs := s.finding.outputs ++ [file] }
    return file
  let call (inDirectory asks : Bool) : FindReader FileCondition := do
    let (words, plus) ← callWords word
    if plus && !asks then
      let n := (← get).finding.gatherings
      modify fun s => { s with finding.gatherings := n + 1 }
      return .action (.gather words inDirectory n)
    else return .action (.call words inDirectory asks)
  match word with
  | "-true" => test .yes
  | "-false" => test .no
  | "-name" => folded .name false
  | "-iname" => folded .name true
  | "-path" | "-wholename" => folded .path false
  | "-ipath" | "-iwholename" => folded .path true
  | "-lname" => folded .target false
  | "-ilname" => folded .target true
  | "-regex" => do
    let dialect := (← get).finding.dialect
    return .test (.regex (← pathRegex dialect (← argument word)) false)
  | "-iregex" => do
    let dialect := (← get).finding.dialect
    return .test (.regex (← pathRegex dialect (← argument word)) true)
  | "-type" => kinds false
  | "-xtype" => kinds true
  | "-size" => do return .test (← sizeTest (← argument word))
  | "-empty" => test .empty
  | "-newer" | "-anewer" | "-cnewer" | "-newermm" => do
    let l ← placeNamed t p (← argument word)
    test (.newer (t.attributesAt l).time)
  | "-newermt" => do
    let text ← argument word
    match DateReading.time? now text with
    | some time => test (.newer time)
    | none => throw ("I cannot figure out how to interpret '" ++ text ++ "' as a date or time")
  | "-mtime" | "-ctime" | "-atime" => age 86400
  | "-mmin" | "-cmin" | "-amin" => age 60
  | "-perm" => do return .test (← modeTest (← argument word))
  | "-links" => do
    let (b, n) ← boundedNumber word (← argument word)
    test (.links b n)
  | "-inum" => do
    let (b, n) ← boundedNumber word (← argument word)
    test (.number b n)
  | "-samefile" => do test (.same (← placeNamed t p (← argument word)))
  | "-user" | "-group" => do
    let name ← argument word
    if name ∉ ["root", "0"] && !name.toList.all Char.isDigit &&
        name ∉ ["daemon", "bin", "sys", "nobody", "nogroup"] then
      throw (shown name ++ " is not the name of " ++
        (if word = "-user" then "a known user" else "an existing group"))
    test (.owner (name ∈ ["root", "0"]))
  | "-uid" | "-gid" => do
    let (b, n) ← boundedNumber word (← argument word)
    test (.owner (b.holds 0 n))
  | "-nouser" | "-nogroup" => test .no
  | "-readable" => test (.usable 'r')
  | "-writable" => test (.usable 'w')
  | "-executable" => test (.usable 'x')
  | "-print" => return .action (.print '\n' none)
  | "-print0" => return .action (.print '\x00' none)
  | "-fprint" => do return .action (.print '\n' (some (← output)))
  | "-fprint0" => do return .action (.print '\x00' (some (← output)))
  | "-printf" => do return .action (.format (← argument word).toList none)
  | "-fprintf" => do
    let file ← output
    return .action (.format (← argument word).toList (some file))
  | "-ls" => return .action .list
  | "-delete" => do
    modify fun s => { s with finding.deep := true }
    return .action .delete
  | "-prune" => return .action .prune
  | "-quit" => return .action .quit
  | "-exec" => call false false
  | "-execdir" => call true false
  | "-ok" => call false true
  | "-okdir" => call true true
  | "-depth" | "-d" => setting ({ · with deep := true })
  | "-maxdepth" => do
    let n ← plainNumber word (← argument word)
    setting ({ · with most := some n })
  | "-mindepth" => do
    let n ← plainNumber word (← argument word)
    setting ({ · with least := n })
  | "-follow" => setting ({ · with follows := true, followsNamed := true })
  | "-regextype" => do
    let dialect ← argument word
    setting ({ · with dialect })
  | "-xdev" | "-mount" | "-noleaf" | "-warn" | "-nowarn" | "-daystart" | "-ignore_readdir_race"
  | "-noignore_readdir_race" => return .test .yes
  | word => throw ("unknown predicate " ++ ticked word)

/-- Whether a word ends an expression or joins it to another one. -/
def isJoint (word : String) : Bool := word ∈ [")", "-o", "-or", ","]

/-- A negation, an expression in parentheses or a part; `whole` reads what stands in
    parentheses, and `fuel` bounds how many negations follow each other. -/
def primary (t : Tree) (p : Process) (now : Int) (whole : FindReader FileCondition) :
    Nat → FindReader FileCondition
  | 0 => throw "invalid expression"
  | fuel + 1 => do
    match (← get).rest with
    | [] => throw "invalid expression"
    | word :: rest =>
      modify fun s => { s with rest }
      match word with
      | "!" | "-not" =>
        if rest.all isJoint && (rest.head?.all isJoint) then
          throw ("expected an expression after '" ++ word ++ "'")
        return .opposite (← primary t p now whole fuel)
      | "(" =>
        if rest.head? == some ")" then throw "invalid expression; empty parentheses are not allowed."
        let c ← whole
        match (← get).rest with
        | ")" :: rest =>
          modify fun s => { s with rest }
          return c
        | _ =>
          throw ("invalid expression; I was expecting to find a ')' somewhere but did not see one.")
      | word =>
        if word.startsWith "-" then part t p now word
        else throw ("paths must precede expression: " ++ ticked word)

/-- Parts that all have to hold; `fuel` bounds their number. -/
def conjunction (t : Tree) (p : Process) (now : Int) (whole : FindReader FileCondition) :
    Nat → FileCondition → FindReader FileCondition
  | 0, c => return c
  | fuel + 1, c => do
    match (← get).rest with
    | [] => return c
    | word :: rest =>
      if isJoint word then return c
      if word = "-a" || word = "-and" then
        modify fun s => { s with rest }
        if rest.isEmpty || rest.head?.any isJoint then
          throw ("expected an expression after '" ++ word ++ "'")
      let next ← primary t p now whole (rest.length + 2)
      conjunction t p now whole fuel (.both c next)

/-- Conjunctions of which one has to hold; `fuel` bounds their number. -/
def disjunction (t : Tree) (p : Process) (now : Int) (whole : FindReader FileCondition) :
    Nat → FindReader FileCondition
  | 0 => throw "invalid expression"
  | fuel + 1 => do
    match (← get).rest with
    | word :: _ =>
      if word ∈ ["-o", "-or", "-a", "-and", ","] then
        throw ("invalid expression; you have used a binary operator '" ++ word ++ "' with nothing before it.")
      if word = ")" then throw "invalid expression; you have too many ')'"
    | [] => pure ()
    let bound := (← get).rest.length + 2
    let c ← conjunction t p now whole bound (← primary t p now whole bound)
    match (← get).rest with
    | word :: rest =>
      if word = "-o" || word = "-or" then
        modify fun s => { s with rest }
        if rest.isEmpty then throw ("expected an expression after '" ++ word ++ "'")
        return .either c (← disjunction t p now whole fuel)
      else return c
    | [] => return c

/-- A condition; `fuel` bounds how deep parentheses stand in each other. -/
def whole (t : Tree) (p : Process) (now : Int) : Nat → FindReader FileCondition
  | 0 => throw "invalid expression"
  | fuel + 1 => do
    let c ← disjunction t p now (whole t p now fuel) ((← get).rest.length + 2)
    match (← get).rest with
    | "," :: rest =>
      modify fun s => { s with rest }
      if rest.isEmpty then throw "expected an expression after ','"
      return .after c (← whole t p now fuel)
    | _ => return c

end FileCondition

/-- What has come of a search so far. -/
structure FindState where
  failed : Bool
  /-- Whether the directory is not entered, and whether the search ends. -/
  pruned : Bool
  ended : Bool
  /-- The files that were gathered, by action and directory. -/
  gathered : List (Nat × List String × Option String × List String)
  outputs : List (String × Nat)

/-- How files are sought. -/
structure Finder where
  call : Caller
  process : Process
  name : String
  finding : Finding

namespace Finder

/-- Call a program, and tell whether it has ended well. -/
def callProgram (x : Finder) (words : List String) (directory : Option Location) : Act Bool := do
  let p := x.process
  p.flush
  match words with
  | [] => return true
  | program :: rest =>
    let child ← p.child
    let child := directory.elim child fun l => { child with working := l }
    let act : Act ExitStatus := do
      match findRunner (← get).files child program rest with
      | .ok (native, arguments) => x.call child native arguments
      | .error .badFormat => x.call child "sh" (Call.shellPath :: program :: rest)
      | .error e =>
        complain child x.name (shown program ++ ": " ++ e.text)
        return .exited 1
    return (← p.carryOut child act) == .exited 0

/-- Whether a file is as a question asks. -/
def holds (s : System) (v : Visit) : FileTest → Bool
  | .yes => true
  | .no => false
  | .name pattern folds =>
    let base := lastName v.path
    if folds then matchesName pattern.toLower base.toLower else matchesName pattern base
  | .path pattern folds =>
    if folds then matchesName pattern.toLower v.path.toLower else matchesName pattern v.path
  | .target pattern folds =>
    match v.entry with
    | .link target =>
      let target := spread target
      if folds then matchesName pattern.toLower target.toLower else matchesName pattern target
    | _ => false
  | .regex r folds => (r.search (folding folds) [] v.path.toList).isSome
  | .kind letters other =>
    let letterOf (e : Entry) : Char := match kindLetter e with
      | '-' => 'f'
      | c => c
    let target := (s.files.entry v.location.dropLast true ⟨v.location.getLastD ""⟩).toOption.map (·.2)
    letters.contains (letterOf (if other then target.getD v.entry else v.entry))
  | .size b count unit => b.holds ((sizeOf v.entry + unit - 1) / unit) count
  | .empty =>
    match v.entry with
    | .directory => (s.files.children v.location).isEmpty
    | .file bytes _ => bytes.isEmpty
    | _ => false
  | .newer time => time < (s.files.attributesAt v.location).time
  | .age b count unit =>
    let now := Tree.startTime + s.clock
    b.holds ((now - (s.files.attributesAt v.location).time) / 1000000000 / unit +
      (if unit = 60 && b ≠ .more then 1 else 0)) count
  | .mode bits how =>
    let mode := s.files.modeAt v.location
    match how with
    | '-' => mode &&& bits = bits
    | '/' => bits = 0 || mode &&& bits ≠ 0
    | _ => mode = bits
  | .links b count => b.holds (nameCount s v.location v.entry) count
  | .number b count => b.holds (fileNumber s v.location) count
  | .same l => v.location = l || s.shared.any fun ls => ls.contains l && ls.contains v.location
  | .owner known => known
  | .usable how =>
    how ≠ 'x' || match v.entry with
      | .file _ executable => executable
      | _ => true

/-- What a letter of a format stands for. -/
def letter (s : System) (start : String) (v : Visit) (c : Char) : Option String :=
  let t := s.files
  let rest := (v.path.drop start.length).copy
  let rest := if rest.startsWith "/" then (rest.drop 1).copy else rest
  let letterOf (e : Entry) : String := match kindLetter e with
    | '-' => "f"
    | c => String.singleton c
  let time := (t.attributesAt v.location).time
  match c with
  | 'p' => some v.path
  | 'f' => some (lastName v.path)
  | 'h' =>
    let cs := v.path.toList.reverse.dropWhile (· ≠ '/')
    some (if cs.isEmpty then "." else String.ofList (cs.drop 1).reverse)
  | 'P' => some rest
  | 'H' => some start
  | 's' => some (toString (sizeOf v.entry))
  | 'm' => some (Mode.octalText 1 (t.modeAt v.location))
  | 'M' => some (String.singleton (kindLetter v.entry) ++ Mode.letters (t.modeAt v.location))
  | 'n' => some (toString (nameCount s v.location v.entry))
  | 'i' => some (toString (fileNumber s v.location))
  | 'y' => some (letterOf v.entry)
  | 'Y' =>
    match v.entry with
    | .link _ =>
      match t.entry v.location.dropLast true ⟨v.location.getLastD ""⟩ with
      | .ok (_, e) => some (letterOf e)
      | .error .tooManyLinks => some "L"
      | .error _ => some "N"
    | e => some (letterOf e)
  | 'l' =>
    match v.entry with
    | .link target => some (spread target)
    | _ => some ""
  | 'd' => some (toString v.depth)
  | 'D' => some "65024"
  | 'u' | 'g' => some "root"
  | 'U' | 'G' => some "0"
  | 'k' => some (toString (blocksOf v.entry / 2))
  | 'b' => some (toString (blocksOf v.entry))
  | 'F' => some "ext4"
  | 'S' => some "1"
  | 't' | 'a' | 'c' => some ((Moment.ofTime time).format "%a %b %e %H:%M:%S.%N0 %Y")
  | _ => none

/-- A file as a format shows it, and what is wrong with the format; `fuel` bounds its length. -/
def formatted (s : System) (start : String) (v : Visit) :
    Nat → List Char → List Char × List String
  | 0, _ | _, [] => ([], [])
  | fuel + 1, '\\' :: cs =>
    match cs with
    | 'c' :: _ => ([], [])
    | c :: rest =>
      if (Formatted.escapedLetter? c).isSome || (Formatted.octal? c).isSome then
        let (d, rest) := Formatted.escape (c :: rest)
        let (text, faults) := formatted s start v fuel rest
        (d :: text, faults)
      else
        let (text, faults) := formatted s start v fuel rest
        ('\\' :: c :: text, ("unrecognized escape \x60\\" ++ String.singleton c ++ "'") :: faults)
    | [] => (['\\'], [])
  | fuel + 1, '%' :: '%' :: cs =>
    let (text, faults) := formatted s start v fuel cs
    ('%' :: text, faults)
  | fuel + 1, '%' :: cs =>
    match Formatted.directive ⟨[], [], false, [], false⟩ cs with
    | (none, _, _) => (['%'], [])
    | (some d, _, rest) =>
      let time := (s.files.attributesAt v.location).time
      let special : Option (String × List Char) :=
        if d.letter ∈ ['T', 'A', 'C', 'B'] then
          match rest with
          | '@' :: rest =>
            some ((Moment.ofTime time).format "%s.%N0", rest)
          | '+' :: rest => some ((Moment.ofTime time).format "%Y-%m-%d+%H:%M:%S.%N0", rest)
          | 'S' :: rest => some ((Moment.ofTime time).format "%S.%N0", rest)
          | 'T' :: rest => some ((Moment.ofTime time).format "%H:%M:%S.%N0", rest)
          | c :: rest => some ((Moment.ofTime time).format ("%" ++ String.singleton c), rest)
          | [] => none
        else (letter s start v d.letter).map (·, rest)
      match special with
      | some (shown, rest) =>
        let isNumber := d.letter ∈ ['s', 'm', 'n', 'i', 'd', 'D', 'U', 'G', 'k', 'b']
        let cs := if isNumber then d.padded true [] shown.toList else d.showText shown.toList
        let (text, faults) := formatted s start v fuel rest
        (cs ++ text, faults)
      | none =>
        let spelled := '%' :: cs.take (cs.length - rest.length)
        let (text, faults) := formatted s start v fuel rest
        (spelled ++ text, ("unrecognized format directive \x60" ++ String.ofList spelled ++ "'") :: faults)
  | fuel + 1, c :: cs =>
    let (text, faults) := formatted s start v fuel cs
    (c :: text, faults)

/-- A file as a listing shows it. -/
def listed (s : System) (v : Visit) : String :=
  let pad (width : Nat) (text : String) : String := "".pushn ' ' (width - text.length) ++ text
  let t := s.files
  let arrow := match v.entry with
    | .link target => " -> " ++ spread target
    | _ => ""
  pad 9 (toString (fileNumber s v.location)) ++ " " ++ pad 6 (toString (blocksOf v.entry / 2)) ++ " " ++
    String.singleton (kindLetter v.entry) ++ Mode.letters (t.modeAt v.location) ++ " " ++
    pad 3 (toString (nameCount s v.location v.entry)) ++ " root     root     " ++
    pad 8 (toString (sizeOf v.entry)) ++ " " ++
    (Moment.ofTime (t.attributesAt v.location).time).format "%b %e %H:%M" ++ " " ++ v.path ++ arrow

/-- Write to the output or to a file. -/
def put (x : Finder) (st : FindState) (output : Option String) (text : String) : Act Unit := do
  match output with
  | none => x.process.say text
  | some file =>
    match st.outputs.lookup file with
    | some index =>
      let _ ← System.write x.process.number index (toBytes text)
    | none => return

/-- The words of a call with the path of a file in the place of its mark. -/
def filled (words : List String) (path : String) : List String :=
  words.map fun w => w.replace "\x7b\x7d" path

/-- The directory of a visit, and its path from there. -/
def fromDirectory (v : Visit) : Location × String :=
  let base := lastName v.path
  (if v.path = "/" then [] else v.location.dropLast, if v.path = "/" then "/" else "./" ++ base)

/-- Do something with a file; whether that counts as true. -/
def act (x : Finder) (start : String) (v : Visit) (a : FileAction) (st : FindState) :
    Act (Bool × FindState) := do
  let s ← get
  match a with
  | .print lineEnd output =>
    x.put st output (v.path ++ String.singleton lineEnd)
    return (true, st)
  | .format text output =>
    let (cs, faults) := formatted s start v (text.length + 1) text
    for f in faults do complain x.process x.name ("warning: " ++ f)
    x.put st output (String.ofList cs)
    return (true, st)
  | .list =>
    x.process.say (listed s v ++ "\n")
    return (true, st)
  | .delete =>
    if v.path = "." then return (true, st)
    match s.files.get? v.location with
    | none => return (true, st)
    | some .directory =>
      if (s.files.children v.location).isEmpty then
        System.remove v.location
        return (true, st)
      blame x.process x.name "cannot delete" v.path .directoryNotEmpty
      return (false, { st with failed := true })
    | some _ =>
      System.remove v.location
      return (true, st)
  | .prune => return (true, { st with pruned := true })
  | .quit => return (true, { st with ended := true })
  | .call words inDirectory asks =>
    let (directory, path) := if inDirectory then
        let (l, path) := fromDirectory v
        (some l, path)
      else (none, v.path)
    if asks then
      let question := "< " ++ words.headD "" ++ " ... " ++ v.path ++ " > ? "
      if !(← confirmed x.process question) then return (false, st)
    return (← x.callProgram (filled words path) directory, st)
  | .gather words inDirectory number =>
    let (key, path) : Option String × String := if inDirectory then
        let (l, path) := fromDirectory v
        (some (Tree.pathOf l).text, path)
      else (none, v.path)
    let isMine (e : Nat × List String × Option String × List String) : Bool :=
      e.1 == number && e.2.2.1 == key
    let added (e : Nat × List String × Option String × List String) :
        Nat × List String × Option String × List String :=
      if isMine e then (e.1, e.2.1, e.2.2.1, e.2.2.2 ++ [path]) else e
    if st.gathered.any isMine then
      return (true, { st with gathered := st.gathered.map added })
    return (true, { st with gathered := st.gathered ++ [(number, words, key, [path])] })

/-- Put a condition to a file. -/
def put_ (x : Finder) (start : String) (v : Visit) : FileCondition → FindState → Act (Bool × FindState)
  | .test t, st => do return (holds (← get) v t, st)
  | .action a, st => x.act start v a st
  | .opposite c, st => do
    let (yes, st) ← x.put_ start v c st
    return (!yes, st)
  | .both a b, st => do
    let (yes, st) ← x.put_ start v a st
    if yes && !st.ended then x.put_ start v b st else return (false, st)
  | .either a b, st => do
    let (yes, st) ← x.put_ start v a st
    if yes || st.ended then return (true, st) else x.put_ start v b st
  | .after a b, st => do
    let (_, st) ← x.put_ start v a st
    if st.ended then return (false, st) else x.put_ start v b st

/-- Search a path and what is below it; `fuel` bounds the depth. -/
def walk (x : Finder) (start : String) (c : FileCondition) :
    Nat → List Location → Visit → FindState → Act FindState
  | 0, _, _, st => return st
  | fuel + 1, seen, v, st => do
    if st.ended then return st
    let f := x.finding
    let t := (← get).files
    let v := match v.entry with
      | .link _ =>
        if f.follows || (v.depth = 0 && f.followsNamed) then
          match t.entry v.location.dropLast true ⟨v.location.getLastD ""⟩ with
          | .ok (l, e) => { v with location := l, entry := e }
          | .error _ => v
        else v
      | _ => v
    let isLoop := seen.contains v.location && isDirectoryEntry v.entry
    if isLoop then return st
    let counts := f.least ≤ v.depth
    let here (st : FindState) : Act FindState := do
      if counts && !st.ended then return (← x.put_ start v c st).2 else return st
    let st ← if f.deep then pure st else here { st with pruned := false }
    let enters := isDirectoryEntry v.entry && !(st.pruned && !f.deep) && f.most.all (v.depth < ·)
    let mut st := { st with pruned := false }
    if enters then
      for (name, _) in (← get).files.children v.location do
        if let some e := (← get).files.get? (v.location ++ [name]) then
          st ← walk x start c fuel (v.location :: seen)
            ⟨inside v.path (spread name), v.location ++ [name], e, v.depth + 1, false⟩ st
    if f.deep then here st else return st

end Finder

/-- Find files. -/
def find : CallingProgram := fun call p arguments => do
  let name := arguments.headD ""
  let words := arguments.drop 1
  let isSwitch (w : String) : Bool := w ∈ ["-P", "-L", "-H"] || w.startsWith "-O" || w = "-D"
  let switches := words.takeWhile isSwitch
  let rest := words.drop switches.length
  let startsExpression (w : String) : Bool :=
    (w.startsWith "-" && w ≠ "-") || w ∈ ["(", "!"]
  let paths := rest.takeWhile (!startsExpression ·)
  let expression := rest.drop paths.length
  let start : Finding := {
    least := 0, most := none, deep := false, follows := switches.getLast? == some "-L"
    followsNamed := switches.getLast? ∈ [some "-H", some "-L"], dialect := "", gatherings := 0
    outputs := [] }
  let s ← get
  let now ← presentTime
  let reader : FindReader FileCondition :=
    if expression.isEmpty then return .test .yes
    else FileCondition.whole s.files p now (expression.length + 2)
  match reader.run ⟨expression, start⟩ with
  | .error text =>
    complain p name text
    return .exited 1
  | .ok (_, ⟨w :: _, _⟩) =>
    complain p name (if w = ")" then "invalid expression; you have too many ')'" else
      "paths must precede expression: \x60" ++ w ++ "'")
    return .exited 1
  | .ok (c, ⟨[], finding⟩) =>
    let c := if c.acts then c else .both c (.action (.print '\n' none))
    let x : Finder := ⟨call, p, name, finding⟩
    let mut outputs : List (String × Nat) := []
    for file in finding.outputs do
      match ← p.openFile file .write with
      | .ok index => outputs := (file, index) :: outputs
      | .error e =>
        blame p name "cannot open" file e
        return .exited 1
    let mut st : FindState := ⟨false, false, false, [], outputs⟩
    for path in if paths.isEmpty then ["."] else paths do
      if !st.ended then
        match ← found p false path with
        | .error e =>
          complain p name (shown path ++ ": " ++ e.text)
          st := { st with failed := true }
        | .ok (l, e) =>
          st ← x.walk path c (2 * s.files.entries.length + 1000) [] ⟨path, l, e, 0, false⟩ st
    for (_, words, key, files) in st.gathered do
      let all := words.flatMap fun w => if w = "\x7b\x7d" then files else [w]
      let directory := key.map fun k => Files.names k
      if !(← x.callProgram all directory) then st := { st with failed := true }
    return .exited (if st.failed then 1 else 0)

end CompileTree.Shell.Utility
