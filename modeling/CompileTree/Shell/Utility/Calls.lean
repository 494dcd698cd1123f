import CompileTree.Shell.Utility.Answers
import CompileTree.Shell.Utility.Dates

/-! # Utilities that call programs

Programs are called with other variables, for a limited time, in other groups of
processes, or while a file is locked.
-/

namespace CompileTree.Shell.Utility

open Files Text

/-- How native programs are run. -/
abbrev Caller := Process → String → List String → Act ExitStatus

/-- A native program that may call others. -/
abbrev CallingProgram := Caller → Process → List String → Act ExitStatus

/-- The words of a text, in which quotation marks and apostrophes keep blanks. -/
def wordsOf : Nat → Option Char → Option (List Char) → List Char → List String
  | 0, _, _, _ => []
  | _ + 1, _, word, [] => (word.map fun w => String.ofList w.reverse).toList
  | fuel + 1, some mark, word, c :: cs =>
    if c = mark then wordsOf fuel none word cs
    else
      match c, cs with
      | '\\', d :: ds =>
        if mark = '"' then wordsOf fuel (some mark) (some (d :: word.getD [])) ds
        else wordsOf fuel (some mark) (some (c :: word.getD [])) (d :: ds)
      | c, cs => wordsOf fuel (some mark) (some (c :: word.getD [])) cs
  | fuel + 1, none, word, c :: cs =>
    if c = ' ' ∨ ('\t' ≤ c ∧ c ≤ '\r') then
      (word.map fun w => String.ofList w.reverse).toList ++ wordsOf fuel none none cs
    else if c = '"' ∨ c = '\'' then wordsOf fuel (some c) (some (word.getD [])) cs
    else
      match c, cs with
      | '\\', d :: ds => wordsOf fuel none (some (d :: word.getD [])) ds
      | c, cs => wordsOf fuel none (some (c :: word.getD [])) cs

/-- The words of a text. -/
def splitWords (text : String) : List String := wordsOf (text.length + 1) none none text.toList

/-- Set a variable among others. -/
def setValue (values : List (String × String)) (name value : String) : List (String × String) :=
  if values.any (·.1 == name) then
    values.map fun v => if v.1 == name then (name, value) else v
  else values ++ [(name, value)]

/-- Call a program with other variables, or list the variables. -/
def env : CallingProgram := fun call p arguments => do
  let name := arguments.headD ""
  let allowed : Allowed := ⟨['i', '0', 'v'], ['u', 'C', 'S'],
    [("--ignore-environment", 'i'), ("--unset", 'u'), ("--chdir", 'C'), ("--split-string", 'S'),
      ("--null", '0'), ("--debug", 'v'), ("--block-signal?", 'β'), ("--ignore-signal?", 'ι'),
      ("--default-signal?", 'δ')],
    true⟩
  let given := match arguments.drop 1 with
    | a :: rest =>
      match a.toList with
      | '-' :: 'S' :: c :: cs => splitWords (String.ofList (c :: cs)) ++ rest
      | '-' :: 'v' :: 'S' :: c :: cs => splitWords (String.ofList (c :: cs)) ++ rest
      | _ => a :: rest
    | [] => []
  match allowed.separate given with
  | .error text =>
    return .exited (← misuse p name text 125)
  | .ok g =>
    let operands := ((g.valueOf? 'S').elim [] splitWords) ++ g.operands
    let (clears, operands) := match operands with
      | "-" :: rest => (true, rest)
      | rest => (g.has 'i', rest)
    let start := if clears then [] else p.environment
    let unset := (g.options.filter (·.1 == 'u')).map (·.2)
    let kept := start.filter fun v => v.1 ∉ unset
    let isAssignment (a : String) : Bool := '=' ∈ a.toList
    let values := (operands.takeWhile isAssignment).foldl (fun vs a =>
      let (n, value) := Builtin.assignment a
      setValue vs n (value.getD "")) kept
    let p := { p with environment := values }
    match operands.dropWhile isAssignment with
    | [] =>
      let lineEnd := String.singleton (lineEndFor (g.has '0'))
      for (n, value) in values do p.say (n ++ "=" ++ value ++ lineEnd)
      return .exited 0
    | program :: rest =>
      if g.has '0' then
        return .exited (← misuse p name "cannot specify --null (-0) with command" 125)
      let t := (← get).files
      let p ← match g.valueOf? 'C' with
        | none => pure (some p)
        | some directory =>
          match t.entry p.working true (Process.path directory) with
          | .ok (l, .directory) => pure (some { p with working := l })
          | .ok _ =>
            complain p name ("cannot change directory to " ++ shown directory ++ ": " ++
              Error.notADirectory.text)
            pure none
          | .error e =>
            complain p name ("cannot change directory to " ++ shown directory ++ ": " ++ e.text)
            pure none
      match p with
      | none => return .exited 125
      | some p =>
        match findRunner t p program rest with
        | .ok (native, arguments) => call p native arguments
        | .error .badFormat => call p "sh" (Call.shellPath :: program :: rest)
        | .error e =>
          complain p name (marked program ++ ": " ++ e.text)
          if e = .notFound ∧ program.toList.any (fun c => c = ' ' ∨ ('\t' ≤ c ∧ c ≤ '\r')) then
            complain p name "use -[v]S to pass options in shebang lines"
          return .exited (if Call.isAbsence e then 127 else 126)

/-- Call the program that operands name; `what` is told first if that cannot be done. -/
def callOperands (call : Caller) (p : Process) (name what : String) (operands : List String) :
    Act ExitStatus := do
  match operands with
  | [] => return .exited (← misuse p name "missing operand" 125)
  | program :: rest =>
    match findRunner (← get).files p program rest with
    | .ok (native, arguments) => call p native arguments
    | .error .badFormat => call p "sh" (Call.shellPath :: program :: rest)
    | .error e =>
      complain p name (what ++ e.text)
      return .exited (if Call.isAbsence e then 127 else 126)

/-- The number of a signal that a text names or spells. -/
def signalNumber? (text : String) : Option Nat :=
  match number? text with
  | some n => if n < 65 then some n else none
  | none =>
    let upper := text.toUpper
    let name := if upper.startsWith "SIG" then (upper.drop 3).copy else upper
    (Signal.ofName? name).map (·.number)

/-- Send a signal to a process and to all others of the group of the sender. -/
def sendOn (p : Process) (foreground : Bool) (signal child : Nat) : Act Unit := do
  let _ ← p.signal signal child
  if !foreground then
    let group := (((← get).standing? p.number).map (·.group)).getD 0
    let reaches (st : Standing) : Bool :=
      st.group == group && (st.number != p.number || signal == Signal.kill)
    modify (·.send signal reaches)
    if signal ≠ Signal.kill && signal ≠ Signal.goOn then
      modify (·.send Signal.goOn fun st => st.group == group && st.number != p.number)
    if signal = Signal.kill then Act.pause

/-- Wait for the end of a process, and send it a signal when its time has come, with another
    one later; signals that come in are passed on. Whether a signal was sent because of
    the time is returned; `fuel` bounds how often one is sent. -/
def watch (p : Process) (foreground : Bool) (child : Nat) :
    Nat → Option (Nat × Nat) → Option Nat → Bool → Act Bool
  | 0, _, _, late => return late
  | fuel + 1, next, later, late => do
    let isOver (s : System) : Bool :=
      (s.endedChild? p.number (· == child)).isSome || (s.standing? child).isNone
    let isCalled (s : System) : Bool := (s.standing? p.number).any (!·.pending.isEmpty)
    match next with
    | some (time, _) => Act.waitUntilTime (fun s => isOver s || isCalled s) time
    | none => Act.waitUntil fun s => isOver s || isCalled s
    let s ← get
    if isOver s then return late
    match ((s.standing? p.number).map (·.pending)).getD [], next with
    | signal :: _, _ =>
      modify fun s => s.update p.number fun st => { st with pending := st.pending.drop 1 }
      sendOn p foreground signal child
      watch p foreground child fuel next later late
    | [], some (_, signal) =>
      sendOn p foreground signal child
      let next := later.map fun after => (s.clock + after, Signal.kill)
      watch p foreground child fuel next none true
    | [], none => watch p foreground child fuel none later late

/-- Call a program that may take a given time. -/
def timeout : CallingProgram := fun call p arguments => do
  let name := arguments.headD ""
  match (⟨['v', 'f', 'p'], ['k', 's'], [("--signal", 's'), ("--kill-after", 'k'), ("--foreground", 'f'),
      ("--preserve-status", 'p'), ("--verbose", 'v')], true⟩ : Allowed).separate (arguments.drop 1) with
  | .error text => return .exited (← misuse p name text 125)
  | .ok g =>
    let limits := [g.operands.head?, g.valueOf? 'k'].filterMap id
    match g.operands with
    | [] | [_] =>
      p.flush
      p.complain ("Try '" ++ name ++ " --help' for more information.")
      return .exited 125
    | text :: words =>
      match limits.find? fun t => (interval? t).isNone, (g.valueOf? 's').filter fun t => (signalNumber? t).isNone with
      | _, some bad => return .exited (← misuse p name (marked bad ++ ": invalid signal") 125)
      | some bad, _ => return .exited (← misuse p name ("invalid time interval " ++ marked bad) 125)
      | none, none =>
        let limit := (interval? text).getD 0
        let later := ((g.valueOf? 'k').bind interval?).filter (· ≠ 0)
        let signal := ((g.valueOf? 's').bind signalNumber?).getD Signal.terminate
        let foreground := g.has 'f'
        modify fun s => s.update p.number fun st =>
          { st with caught := [1, 2, 3, 15], group := if foreground then st.group else p.number }
        let child ← p.child
        child.start (callOperands call child name
          ("failed to run command " ++ marked (words.headD "") ++ ": ") words)
        let now := (← get).clock
        let next := if limit = 0 then none else some (now + limit, signal)
        let late ← watch p foreground child.number 1000 next later false
        match ← p.await child.number with
        | .exited n => return .exited (if late && !g.has 'p' then 124 else n)
        | .signaled n =>
          if !late then return .signaled n
          else if g.has 'p' || n = Signal.kill then return .exited (128 + n)
          else return .exited 124

/-- Call a program that stands further back behind others. -/
def nice : CallingProgram := fun call p arguments => do
  let name := arguments.headD ""
  let spelled := arguments.drop 1 |>.map fun a =>
    match a.toList with
    | '-' :: c :: cs =>
      if c.isDigit then "-n" ++ String.ofList (c :: cs)
      else if c = '-' && cs.head?.any Char.isDigit then "-n-" ++ String.ofList cs else a
    | _ => a
  match (⟨[], ['n'], [("--adjustment", 'n')], true⟩ : Allowed).separate spelled with
  | .error text => return .exited (← misuse p name text 125)
  | .ok g =>
    let rank := (((← get).standing? p.number).map (·.rank)).getD 0
    let change? := match g.valueOf? 'n' with
      | none => some 10
      | some text => (DateReading.number? text)
    match change?, g.operands with
    | none, _ =>
      complain p name ("invalid adjustment " ++ marked ((g.valueOf? 'n').getD ""))
      return .exited 125
    | some _, [] =>
      if g.has 'n' then return .exited (← misuse p name "a command must be given with an adjustment" 125)
      p.say (toString rank ++ "\n")
      return .exited 0
    | some change, words =>
      let new := max (-20) (min 19 (rank + change))
      modify fun s => s.update p.number fun st => { st with rank := new }
      callOperands call p name (marked (words.headD "") ++ ": ") words

/-- Call a program that a hangup does not end. -/
def nohup : CallingProgram := fun call p arguments => do
  let name := arguments.headD ""
  match (⟨[], [], [], true⟩ : Allowed).separate (arguments.drop 1) with
  | .error text => return .exited (← misuse p name text 125)
  | .ok g =>
    if g.operands.isEmpty then return .exited (← misuse p name "missing operand" 125)
    modify fun s => s.update p.number fun st => { st with ignored := 1 :: st.ignored }
    callOperands call p name ("failed to run command " ++ shown (g.operands.headD "") ++ ": ") g.operands

/-- Call a program in a group of its own. -/
def setsid : CallingProgram := fun call p arguments => do
  let name := arguments.headD ""
  match (⟨['c', 'f', 'w'], [], [("--ctty", 'c'), ("--fork", 'f'), ("--wait", 'w')], true⟩ :
      Allowed).separate (arguments.drop 1) with
  | .error text => return .exited (← misuse p name text 1)
  | .ok g =>
    match g.operands with
    | [] => return .exited (← misuse p name "no command specified" 1)
    | program :: _ =>
      let isLeader := ((← get).standing? p.number).any fun st => st.group == p.number
      let run (p : Process) : Act ExitStatus := do
        modify fun s => s.update p.number fun st => { st with group := p.number }
        callOperands call p name ("failed to execute " ++ program ++ ": ") g.operands
      if isLeader || g.has 'f' then
        let child ← p.child
        if g.has 'w' then p.carryOut child (run child)
        else
          child.start (run child)
          return .exited 0
      else run p

/-- Call a program with its outputs written in other pieces. -/
def stdbuf : CallingProgram := fun call p arguments => do
  let name := arguments.headD ""
  match (⟨[], ['i', 'o', 'e'], [("--input", 'i'), ("--output", 'o'), ("--error", 'e')], true⟩ :
      Allowed).separate (arguments.drop 1) with
  | .error text => return .exited (← misuse p name text 125)
  | .ok g =>
    if g.operands.isEmpty then return .exited (← misuse p name "missing operand" 125)
    callOperands call p name ("failed to run command " ++ marked (g.operands.headD "") ++ ": ") g.operands

/-- Lock an open file, and wait for that if it has to be; whether it was locked. -/
def lockFile (index : Nat) (shared waits : Bool) (limit : Option Nat) : Act Bool := do
  let place? : Option Location := match (← get).openFiles[index]? with
    | some ⟨.file l, _, _, _, _⟩ | some ⟨.directory l, _, _, _, _⟩ => some l
    | _ => none
  match place? with
  | none => return true
  | some file =>
    let lock : Lock := ⟨file, index, shared⟩
    if waits then
      match limit with
      | some time => Act.waitUntilTime (·.allows lock) ((← get).clock + time)
      | none => Act.waitUntil (·.allows lock)
    if !(← get).allows lock then return false
    modify fun s =>
      let others := s.locks.filter fun k => s.isHeld k.holder && k.holder != index
      { s with locks := lock :: others }
    return true

/-- Lock a file, and call a program as long as it is locked. -/
def flock : CallingProgram := fun call p arguments => do
  let name := arguments.headD ""
  match (⟨['s', 'x', 'e', 'u', 'n', 'o', 'F'], ['w', 'E'],
      [("--shared", 's'), ("--exclusive", 'x'), ("--unlock", 'u'), ("--nonblock", 'n'), ("--nb", 'n'),
        ("--timeout", 'w'), ("--wait", 'w'), ("--conflict-exit-code", 'E'), ("--close", 'o'),
        ("--no-fork", 'F'), ("--verbose", 'v')], true⟩ : Allowed).separate (arguments.drop 1) with
  | .error text => return .exited (← misuse p name text 64)
  | .ok g =>
    let shared := (g.options.filter fun o => o.1 ∈ ['s', 'x', 'e']).getLast?.any (·.1 == 's')
    let conflict := ((g.valueOf? 'E').bind number?).getD 1
    let lock (index : Nat) : Act Bool :=
      lockFile index shared (!g.has 'n') ((g.valueOf? 'w').bind interval?)
    match g.operands with
    | [] => return .exited (← misuse p name "requires file descriptor, file or directory" 64)
    | [only] =>
      match number? only with
      | none =>
        complain p name ("bad file descriptor: " ++ shown only)
        return .exited 64
      | some d =>
        match p.descriptors.lookup d with
        | none =>
          complain p name (only ++ ": " ++ Error.badDescriptor.text)
          return .exited 65
        | some index =>
          if g.has 'u' then
            modify fun s => { s with locks := s.locks.filter (·.holder != index) }
            return .exited 0
          return .exited (if ← lock index then 0 else conflict)
    | file :: words =>
      let opened ← if ← isDirectory p file then p.openFile file .read else p.openFile file .append
      match opened with
      | .error e =>
        complain p name ("cannot open lock file " ++ file ++ ": " ++ e.text)
        return .exited 66
      | .ok index =>
        let p := p.keeping index
        p.hold
        if !(← lock index) then return .exited conflict
        let words := match words with
          | "-c" :: text :: _ => [Call.shellPath, "-c", text]
          | words => words
        let child ← p.child
        let what := "failed to execute " ++ words.headD "" ++ ": "
        match ← p.carryOut child (callOperands call child name what words) with
        | .exited n => return .exited n
        | .signaled n => return .exited (128 + n)

end CompileTree.Shell.Utility
