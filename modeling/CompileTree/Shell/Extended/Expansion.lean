import CompileTree.Shell.Extended.Braces
import CompileTree.Shell.Extended.Globs
import CompileTree.Shell.Extended.Pathnames
import CompileTree.Shell.Extended.Quoting
import CompileTree.Shell.Extended.Values
import CompileTree.Shell.Expansion

/-! # Expanding words of the extended shell

Braces are expanded first. Then a word becomes characters that remember whether they
were quoted and whether they came from an expansion. These are cut into fields where
separators came from an expansion, and fields that are patterns become the names of the
files they match.
-/

namespace CompileTree.Shell.Extended.Expansion

open Files Text Step Values Fields
open Script (Parameter Trim Remedy isName)
open Shell.Expansion (Purpose parameterName trimmedOutput)

/-- What words need from what runs commands. -/
structure Outside where
  /-- What a command writes. -/
  output (c : Statement) : Step String
  /-- What commands write that a text spells. -/
  late (text : String) : Step String
  /-- The name of a file that is joined to a command. -/
  channel (reads : Bool) (c : Statement) : Step String

/-- What an expansion is about: a value that may be missing, or values that may stay apart. -/
inductive Found where
  | one (value : Option String)
  | many (joined : Bool) (values : List String)

/-- What stands between values in one text. -/
def between (s : State) : String := s.separators.head?.elim "" String.singleton

/-- The pieces of a value. -/
def valuePieces (quoted : Bool) (purpose : Purpose) (text : String) : List Piece :=
  let split := purpose != .text && !quoted
  text.toList.map (.char · quoted split) ++ (if split then [.edge] else [])

/-- The pieces of values. -/
def listPieces (s : State) (quoted : Bool) (purpose : Purpose) (joined : Bool)
    (values : List String) : List Piece :=
  let separated (between : Piece) : List Piece :=
    [between].intercalate (values.map fun a => a.toList.map (Piece.char · quoted (!quoted)))
  if purpose = .text then
    valuePieces quoted purpose ((if joined then between s else " ").intercalate values)
  else if quoted && joined then valuePieces quoted purpose ((between s).intercalate values)
  else if !quoted then separated .gap ++ [.edge]
  else if values.isEmpty then []
  else .keep :: separated .border

/-- The pieces of what an expansion is about. -/
def foundPieces (s : State) (quoted : Bool) (purpose : Purpose) : Found → List Piece
  | .one none => []
  | .one (some v) => valuePieces quoted purpose v
  | .many joined values => listPieces s quoted purpose joined values

/-- What a value or values become. -/
def Found.map (f : String → String) : Found → Found
  | .one v => .one (v.map f)
  | .many joined values => .many joined (values.map f)

/-- The letters of the options in the order in which they are shown. -/
def optionLetters : List (String × Char) := [
  ("allexport", 'a'), ("notify", 'b'), ("errexit", 'e'), ("noglob", 'f'), ("hashall", 'h'),
  ("interactive", 'i'), ("keyword", 'k'), ("monitor", 'm'), ("noexec", 'n'), ("privileged", 'p'),
  ("onecmd", 't'), ("nounset", 'u'), ("verbose", 'v'), ("xtrace", 'x'), ("braceexpand", 'B'),
  ("noclobber", 'C'), ("errtrace", 'E'), ("histexpand", 'H'), ("physical", 'P'),
  ("functrace", 'T'), ("command", 'c'), ("stdin", 's')]

/-- The value of a parameter that is no variable. -/
def special (s : State) : Parameter → Option String
  | .position 0 => some s.name
  | .position (n + 1) => s.arguments[n]?
  | .count => some (toString s.arguments.length)
  | .status => some (toString s.status)
  | .process => some (toString s.root)
  | .options => some (String.ofList (optionLetters.filterMap fun (o, c) => if s.has o then some c else none))
  | .lastJob => s.lastJob.map toString
  | .each | .joined | .named _ => none

/-- What a name with the text of a subscript stands for. -/
def element (name subscript : String) : Step Found := do
  let c ← content name
  if subscript = "@" then return .many false c.values
  if subscript = "*" then return .many true c.values
  let key ← keyOf name subscript
  match element? c key with
  | some v => return .one v
  | none =>
    complain (name ++ ": bad array subscript")
    return .one none

/-- What a parameter with the text of a subscript stands for. -/
def found (p : Parameter) (subscript : Option String) : Step Found := do
  match p, subscript with
  | .each, _ => return .many false (← get).arguments
  | .joined, _ => return .many true (← get).arguments
  | .named name, none => return .one (← value? name)
  | .named name, some text => element name text
  | p, _ => return .one (special (← get) p)

/-- The parameter that a text names, with the text of its subscript. -/
def parameterOf? (text : String) : Option (Parameter × Option String) :=
  let cs := text.toList
  let name := cs.takeWhile Script.isNameChar
  match cs.drop name.length with
  | [] =>
    if isName cs then some (.named text, none)
    else if !cs.isEmpty && cs.all Char.isDigit then
      some (.position (Script.Reader.digitsValue cs), none)
    else none
  | '[' :: rest =>
    if isName name && rest.getLast? == some ']' then
      some (.named (String.ofList name), some (String.ofList rest.dropLast))
    else none
  | [c] => if name.isEmpty then (Script.Reader.special? c).map (·, none) else none
  | _ => none

/-- The home directory of a user, of whoever runs the shell, or a directory of the shell. -/
def home (user : String) : Step (Option String) := do
  let s ← get
  match user with
  | "" => return some ((s.text? "HOME").getD "/root")
  | "+" => return some s.directory
  | "-" => return s.text? "OLDPWD"
  | "root" => return some "/root"
  | user =>
    let digits := match user.toList with
      | '+' :: cs => cs
      | cs => cs
    if !digits.isEmpty && digits.all Char.isDigit then
      return (s.directory :: s.stack)[Script.Reader.digitsValue digits]?
    else return none

/-- Whether a value counts as missing. -/
def isMissing (alsoEmpty : Bool) : Found → Bool
  | .one none => true
  | .one (some v) => alsoEmpty && v == ""
  | .many _ values => values.isEmpty || (alsoEmpty && values == [""])

/-- What a pattern leaves of a text. -/
def trimmed (fold : Bool) (how : Trim) (p : Glob) (text : String) : String :=
  let cs := text.toList
  let left := match how with
    | .shortestStart => (p.startLength? fold false cs).map cs.drop
    | .longestStart => (p.startLength? fold true cs).map cs.drop
    | .shortestEnd => (p.restLength? fold false cs).map cs.take
    | .longestEnd => (p.restLength? fold true cs).map cs.take
  left.elim text String.ofList

/-- A text in which what a pattern stands for is replaced; an ampersand that is not quoted
    stands for what is replaced. -/
def replaced (fold : Bool) (site : Site) (p : Glob) (other : Marked) (text : String) : String :=
  let cs := text.toList
  let put_ (matched : List Char) : List Char :=
    other.flatMap fun (c, quoted) => if c = '&' ∧ !quoted then matched else [c]
  let result := match site with
    | .start =>
      match p.startLength? fold true cs with
      | some n => put_ (cs.take n) ++ cs.drop n
      | none => cs
    | .finish =>
      match p.restLength? fold true cs with
      | some n => cs.take n ++ put_ (cs.drop n)
      | none => cs
    | .first | .all =>
      if p.isEmpty then cs
      else if cs.isEmpty then
        if p.accepts fold [] then put_ [] else []
      else Glob.replacedWithin fold (site == .all) p put_ (cs.length + 1) cs
  String.ofList result

/-- A text in which the case of the letters is changed that a pattern stands for. -/
def cased (how : Casing) (all : Bool) (p : Glob) (text : String) : String :=
  let change (c : Char) : Char :=
    if p.isEmpty || p.accepts false [c] then how.change c else c
  match text.toList with
  | [] => ""
  | c :: cs => String.ofList (change c :: if all then cs.map change else cs)

/-- The elements of an array as a declaration has them. -/
def declaredElements (c : Content) : String :=
  match c with
  | .table elements =>
    String.join ((Content.ordered Content.groups (·.1) elements).map fun (k, v) =>
      let key := if Quoting.needsEscapes k then Quoting.escaped k
        else if Quoting.hasMeaning k || k = "" then Quoting.marks k else k
      "[" ++ key ++ "]=" ++ Quoting.declared v ++ " ")
  | c => " ".intercalate (c.asList.map fun (i, v) =>
      "[" ++ toString i ++ "]=" ++ Quoting.declared v)

/-- A variable as a command that declares it. -/
def declaration (v : Variable) : String :=
  let letters := v.letters
  let start := "declare -" ++ (if letters = "" then "-" else letters) ++ " " ++ v.name
  match if v.bare then .nothing else v.content with
  | .nothing => start
  | .text value => start ++ "=" ++ Quoting.declared value
  | c => start ++ "=(" ++ declaredElements c ++ ")"

/-- The value of a variable with its name and how it was declared. -/
def assigned (v : Variable) (whole : Bool) (value : Option String) : String :=
  let letters := v.letters
  if whole && v.content.isArray then declaration v
  else
    let start := if letters = "" then "" else "declare -" ++ letters ++ " "
    match value with
    | some text => start ++ v.name ++ "=" ++ Quoting.quoted text
    | none => if letters = "" then "" else start ++ v.name

/-- Keys and values in turn. -/
def pairs (c : Content) : List String :=
  match c with
  | .table elements =>
    (Content.ordered Content.groups (·.1) elements).flatMap fun (k, v) => [k, v]
  | c => c.asList.flatMap fun (i, v) => [toString i, v]

/-- Keys and values in one text. -/
def pairsText (c : Content) : String :=
  let shown (e : String × String) : String :=
    (if Quoting.needsEscapes e.1 then Quoting.escaped e.1
      else if Quoting.hasMeaning e.1 then Quoting.marks e.1 else e.1) ++ " " ++ Quoting.declared e.2
  match c with
  | .table elements =>
    String.join ((Content.ordered Content.groups (·.1) elements).map fun e => shown e ++ " ")
  | c => " ".intercalate (c.asList.map fun (i, v) => shown (toString i, v))

/-- What is shown of a value for a letter. -/
def shown (letter : Char) (p : Parameter) (subscript : Option String) (f : Found) : Step Found := do
  let v ← match p with
    | .named name => lookup name
    | _ => pure none
  let c := (v.map (·.content)).getD .nothing
  match letter, f, v with
  | 'Q', f, _ => return f.map Quoting.quoted
  | 'U', f, _ => return f.map String.toUpper
  | 'L', f, _ => return f.map String.toLower
  | 'u', f, _ => return f.map (cased .upper false [])
  | 'E', f, _ => return f.map fun t => String.ofList (Escapes.ofQuoted t.toList)
  | 'a', .many joined values, some v => return .many joined (values.map fun _ => v.letters)
  | 'a', _, some v => return .one (some v.letters)
  | 'a', _, none => return .one none
  | 'A', .many .., some v => return .one (some (assigned v true none))
  | 'A', .one value, some v => return .one (some (assigned v subscript.isSome value))
  | 'A', .many _ values, none =>
    return .one (some ("set -- " ++ " ".intercalate (values.map Quoting.quoted)))
  | 'K', .many .., some _ => return .one (some (pairsText c))
  | 'k', .many joined _, some _ => return .many joined (pairs c)
  | 'K', f, _ | 'k', f, _ => return f.map Quoting.quoted
  | _, f, _ => return f

/-- How a parameter is called in complaints. -/
def spelling (p : Parameter) (subscript : Option String) : String :=
  match p, subscript with
  | .position n, _ => "$" ++ toString n
  | .named name, some text => name ++ "[" ++ text ++ "]"
  | p, _ => parameterName p

/-- The status with which the shell ends where a value is missing. -/
def missingStatus : Step Nat := do
  let s ← get
  return if s.has "command" && s.subshells = 0 then 127 else 1

/-- Complain if a value is missing that has to be there. -/
def require (p : Parameter) (subscript : Option String) (f : Found) : Step Unit := do
  match f with
  | .one none =>
    if (← get).has "nounset" then
      let status ← missingStatus
      let mark := if p = .lastJob then "$" else ""
      fatal (mark ++ spelling p subscript ++ ": unbound variable") status
  | _ => return

/-- A part of a text or of values, from an offset on and with a length. -/
def slice (p : Parameter) (subscript : Option String) (f : Found) (start : String)
    (count : Option String) : Step Found := do
  let inName (text : String) : Step Int := do
    let n ← named (some (spelling p subscript)) (calculate text)
    return n.toInt
  let negative (text : String) : Step Found := discard (text ++ ": substring expression < 0")
  let f ← match p, subscript with
    | .named name, some _ => do
      match ← content name with
      | .text v => pure (if f matches .many .. then .one (some v) else f)
      | _ => pure f
    | _, _ => pure f
  match f with
  | .one none => return f
  | .one (some v) =>
    let length : Int := v.length
    let n ← inName start
    let from_ := if n < 0 then length + n else n
    if from_ < 0 || length < from_ then return .one (some "")
    let left := v.toList.drop from_.toNat
    match count with
    | none => return .one (some (String.ofList left))
    | some text =>
      let k ← inName text
      if k < 0 then
        if length + k < from_ then negative text
        else return .one (some (String.ofList (left.take (length + k - from_).toNat)))
      else return .one (some (String.ofList (left.take k.toNat)))
  | .many joined values =>
    let s ← get
    let indexed : List (Nat × String) ← match p with
      | .named name => do
        match ← content name with
        | .table _ => pure (values.zipIdx 0 |>.map fun (v, i) => (i, v))
        | c => pure c.asList
      | _ => pure ((s.name :: s.arguments).zipIdx.map fun (v, i) => (i, v))
    let end_ : Int := ((indexed.getLast?).map fun (i, _) => (i : Int) + 1).getD 0
    let n ← inName start
    let from_ := if n < 0 then end_ + n else n
    let left := if from_ < 0 then [] else indexed.filter fun (i, _) => from_.toNat ≤ i
    match count with
    | none => return .many joined (left.map (·.2))
    | some text =>
      let k ← inName text
      if k < 0 then negative text else return .many joined ((left.take k.toNat).map (·.2))

/-- The names of variables that start with a text. -/
def namesFrom (start : String) : Step (List String) := do
  let names := ((← get).visible.filter fun v => v.content != .nothing).map (·.name)
  return (names.filter (·.startsWith start)).mergeSort fun a b => !(b < a)

/-- What is told of a text that is no parameter. -/
def badSubstitution {α : Type} (text : String) : Step α :=
  discard ("$\x7b" ++ text ++ "\x7d: bad substitution")

/-- The parameter that the value of another one names. -/
def indirect (p : Parameter) (subscript : Option String) : Step (Parameter × Option String) := do
  match ← found p subscript with
  | .one none => discard (spelling p subscript ++ ": invalid indirect expansion")
  | .one (some text) =>
    match parameterOf? text with
    | some other => return other
    | none => discard (text ++ ": invalid variable name")
  | .many _ values =>
    match parameterOf? (" ".intercalate values) with
    | some other => return other
    | none => discard (" ".intercalate values ++ ": invalid variable name")

/-- The name of the variable for which a parameter stands, if it is no variable itself. -/
def referred? (s : State) (p : Parameter) (subscript : Option String) : Option String :=
  match p, subscript with
  | .named name, none =>
    if (s.find? name).any (·.reference) then some (resolve s referenceLimit name) else none
  | _, _ => none

mutual

/-- The pieces of a word. -/
def pieces (o : Outside) (purpose : Purpose) : List Part → Step (List Piece)
  | [] => return []
  | part :: rest => do
    let ps ← piecesOf o purpose part
    return ps ++ (← pieces o purpose rest)

/-- The pieces of a part of a word. -/
def piecesOf (o : Outside) (purpose : Purpose) : Part → Step (List Piece)
  | .text quoted cs =>
    return if quoted && cs.isEmpty then [.keep]
      else cs.map (Piece.char · quoted (purpose == .otherFields && !quoted))
  | .home user => do
    match ← home (String.ofList user) with
    | some directory => return directory.toList.map (Piece.char · true false)
    | none => return ('~' :: user).map (Piece.char · false false)
  | .value quoted subject change => do
    let (isIndirect, p, subscript) ← subjectOf o subject
    if !isIndirect then return ← changed o purpose quoted p subscript change
    match referred? (← get) p subscript with
    | some name => return valuePieces quoted purpose name
    | none =>
      let (p, subscript) ← indirect p subscript
      changed o purpose quoted p subscript change
  | .output quoted c => do
    return valuePieces quoted purpose (trimmedOutput (← o.output c))
  | .late quoted text => do
    return valuePieces quoted purpose (trimmedOutput (← o.late (String.ofList text)))
  | .contents quoted (.of _ ps) => do
    let name := textOf (← pieces o .text ps)
    match ← perform ((← get).process.readFile name) with
    | .ok text =>
      modify fun s => { s with substituted := some 0 }
      return valuePieces quoted purpose (trimmedOutput text)
    | .error e =>
      complainPlainly (name ++ ": " ++ e.text)
      modify fun s => { s with substituted := some 1 }
      return valuePieces quoted purpose ""
  | .arithmetic quoted text => do
    let text := textOf (← pieces o .text text)
    let n ← named none (calculate text)
    return valuePieces quoted purpose (toString n.toInt)
  | .channel reads c => do
    return (← o.channel reads c).toList.map (Piece.char · true false)

/-- What an expansion is about, with the text of its subscript. -/
def subjectOf (o : Outside) : Subject → Step (Bool × Parameter × Option String)
  | .of isIndirect p .none => return (isIndirect, p, none)
  | .of isIndirect p (.all joined) => return (isIndirect, p, some (if joined then "*" else "@"))
  | .of isIndirect p (.index text) => do
    return (isIndirect, p, some (textOf (← pieces o .text text)))

/-- The pieces of what is made of a parameter. -/
def changed (o : Outside) (purpose : Purpose) (quoted : Bool) (p : Parameter)
    (subscript : Option String) : Change → Step (List Piece)
  | .plain => do
    let f ← found p subscript
    require p subscript f
    return foundPieces (← get) quoted purpose f
  | .length => do
    match ← found p subscript with
    | .many _ values =>
      match p, subscript, values with
      | .named name, _, [] => do
        if (← content name) == .nothing then require (.named name) none (.one none)
      | _, _, _ => pure ()
      return valuePieces quoted purpose (toString values.length)
    | f =>
      require p subscript f
      let length := match f with
        | .one (some v) => v.length
        | _ => 0
      return valuePieces quoted purpose (toString length)
  | .names joined => do
    let names ← namesFrom (parameterName p)
    return listPieces (← get) quoted purpose joined names
  | .keys joined => do
    let keys := (← content (parameterName p)).keys
    return listPieces (← get) quoted purpose joined keys
  | .missing how alsoEmpty other => do
    let f ← found p subscript
    let missing := isMissing alsoEmpty f
    let inner := if purpose == .text || quoted then purpose else .otherFields
    match how with
    | .instead => if missing then return [] else pieces o inner other
    | .other =>
      if missing then pieces o inner other
      else return foundPieces (← get) quoted purpose f
    | .assign =>
      if !missing then return foundPieces (← get) quoted purpose f
      let text := textOf (← pieces o .text other)
      match p with
      | .named name =>
        let key ← match subscript with
          | some k => some <$> keyOf name k
          | none => pure none
        assign name key text false
        return valuePieces quoted purpose text
      | p => discard (spelling p subscript ++ ": cannot assign in this way")
    | .complain =>
      if !missing then return foundPieces (← get) quoted purpose f
      let text := textOf (← pieces o .text other)
      let message := if other.isEmpty then "parameter " ++ (if alsoEmpty then "null or " else "") ++ "not set"
        else text
      let name := match p with
        | .position n => toString n
        | p => spelling p subscript
      let status ← missingStatus
      named none (fatal (name ++ ": " ++ message) status)
  | .trimmed how other => do
    let f ← found p subscript
    require p subscript f
    let marked := markedOf (← pieces o .text other)
    let s ← get
    let glob := Glob.ofMarked (s.hasExtra "extglob") marked
    return foundPieces s quoted purpose (f.map (trimmed false how glob))
  | .slice start count => do
    let f ← found p subscript
    require p subscript f
    let start := textOf (← pieces o .text start)
    let count ← match count with
      | none => pure none
      | some text => do pure (some (textOf (← pieces o .text text)))
    let f ← slice p subscript f start count
    return foundPieces (← get) quoted purpose f
  | .replaced site pattern other => do
    let f ← found p subscript
    require p subscript f
    let marked := markedOf (← pieces o .text pattern)
    let other := markedOf (← pieces o .text other)
    let s ← get
    let other := if s.hasExtra "patsub_replacement" then other
      else other.map fun (c, _) => (c, true)
    let glob := Glob.ofMarked (s.hasExtra "extglob") marked
    let fold := s.hasExtra "nocasematch"
    return foundPieces s quoted purpose (f.map (replaced fold site glob other))
  | .cased how all pattern => do
    let f ← found p subscript
    require p subscript f
    let marked := markedOf (← pieces o .text pattern)
    let s ← get
    let glob := Glob.ofMarked (s.hasExtra "extglob") marked
    return foundPieces s quoted purpose (f.map (cased how all glob))
  | .shown letter => do
    let f ← found p subscript
    let f ← shown letter p subscript f
    require p subscript f
    return foundPieces (← get) quoted purpose f
  | .malformed => badSubstitution (parameterName p)

end

/-- The names of files that a field stands for, or its text. -/
def namesFor (field : Marked) : Step (List String) := do
  let s ← get
  let literal := String.ofList (field.map (·.1))
  let extended := s.hasExtra "extglob"
  let hasSign := field.any fun (c, quoted) =>
    !quoted && (c ∈ ['*', '?', '['] || (extended && c ∈ ['@', '+', '!']))
  if !hasSign || s.has "noglob" then return [literal]
  let way : Pathnames.Way := {
    extended, fold := s.hasExtra "nocaseglob", hidden := s.hasExtra "dotglob"
    deep := s.hasExtra "globstar" }
  if !Pathnames.mayMatch way field then return [literal]
  match Pathnames.expand (← getThe System).files s.process way field with
  | [] =>
    if s.hasExtra "failglob" then discard ("no match: " ++ literal)
    else if s.hasExtra "nullglob" then return []
    else return [literal]
  | found => return found

/-- The fields of a word. -/
def fields (o : Outside) (w : Word) : Step (List String) := do
  let words := if (← get).has "braceexpand" then Braces.expand w.parts else [w.parts]
  let found ← words.mapM fun ps => do
    let ps ← pieces o .fields ps
    (cut (← get).separators ⟨none, false⟩ ps).mapM namesFor
  return found.flatten.flatten

/-- The text of parts that are not cut into fields. -/
def textOfParts (o : Outside) (ps : List Part) : Step String := do
  return textOf (← pieces o .text ps)

/-- The text of a word that is not cut into fields. -/
def text (o : Outside) (w : Word) : Step String := textOfParts o w.parts

/-- The characters of a word with whether they are quoted. -/
def marked (o : Outside) (w : Word) : Step Marked := do
  return markedOf (← pieces o .text w.parts)

end CompileTree.Shell.Extended.Expansion
