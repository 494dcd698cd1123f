import CompileTree.Shell.Builtin

/-! # Running commands

How every kind of command runs, given how the commands in it do. Commands that stand
in each other are followed to a fixed depth.
-/

namespace CompileTree.Shell.Commands

open Files Script Run Text

/-- The fields of the words of a command. The arguments of a command that declares
    variables stay whole if they are assignments. -/
def namesFrom (e : Engine) : List String → List Word → Run (List String)
  | before, [] => return before
  | before, w :: rest => do
    let command := (before.dropWhile fun a => a = "command" || a.startsWith "-").head?
    let declares := command.any (· ∈ ["export", "local", "readonly"])
    match if declares then w.assignment? else none with
    | some (name, value) =>
      namesFrom e (before ++ [name ++ "=" ++ (← e.text value)]) rest
    | none => namesFrom e (before ++ (← e.fields w)) rest

/-- A command without the word that passes functions over, and whether it had one. -/
def passing : Nat → List String → Bool × List String
  | 0, names => (false, names)
  | fuel + 1, names =>
    match names with
    | "command" :: rest =>
      match rest with
      | "-p" :: name :: rest => (true, (passing fuel (name :: rest)).2)
      | "--" :: name :: rest => (true, (passing fuel (name :: rest)).2)
      | name :: rest => if name.startsWith "-" then (false, names)
        else (true, (passing fuel (name :: rest)).2)
      | [] => (false, names)
    | names => (false, names)

/-- How many functions may run in each other. -/
def callLimit : Nat := 1000

/-- Call a function. -/
def callFunction (e : Engine) (m : Manner) (body : Statement) (arguments : List String) :
    Run Nat := do
  let s ← get
  if callLimit ≤ s.calls then
    fault ("Maximum function recursion depth (" ++ toString callLimit ++ ") reached") 2
  set { s with arguments, calls := s.calls + 1, loops := 0, optionOffset := 0 }
  anyway
    (tryCatch (e.run body m.notLast) fun
      | .back n => return n
      | j => throw j)
    (modify fun after => { after with
      arguments := s.arguments, calls := s.calls, loops := s.loops, optionOffset := s.optionOffset })

/-- What stands before a command that is shown: a text in which parameters and commands are
    expanded. -/
def traceMark (e : Engine) (text : String) : Run String := do
  match Reader.wholeText.run (Source.ofText 0 text.toList) with
  | .ok (w, _) =>
    let s ← get
    tryCatch
      (do
        set { s with options := s.options.filter (· ≠ 'x') }
        let text ← Expansion.text e.output w
        modify fun after => { after with options := s.options, substituted := s.substituted }
        return text)
      fun _ => do
        modify fun after => { after with options := s.options }
        return text
  | .error f =>
    complain ("Syntax error: " ++ f.text)
    return text

/-- Show a command before it runs. -/
def trace (e : Engine) (p : Process) (assignments : List (String × String)) (names : List String) :
    Run Unit := do
  if (← get).has 'x' then
    let mark ← traceMark e (((← get).value? "PS4").getD "+ ")
    let words := assignments.map (fun (name, value) => name ++ "=" ++ value) ++ names
    perform (p.complain (mark ++ " ".intercalate words))

/-- Give variables the values of assignments. -/
def assignAll (e : Engine) (temporary : Bool) :
    List (String × Word) → Run (List (String × String))
  | [] => return []
  | (name, w) :: rest => do
    let value ← e.text w
    if temporary then save name
    assign name value temporary
    return (name, value) :: (← assignAll e temporary rest)

/-- Run a command that consists of words. -/
def simple (e : Engine) (m : Manner) (assignments : List (String × Word)) (words : List Word)
    (redirections : List Redirection) : Run Nat := do
  modify fun s => { s with substituted := 0 }
  let names ← namesFrom e [] words
  let s ← get
  let p := s.process
  let (passes, called) := if (s.functions.lookup "command").isSome then (false, names)
    else passing names.length names
  let name := called.headD ""
  let arguments := called.drop 1
  let function? := if passes || called.isEmpty then none else s.functions.lookup name
  let action? := if called.isEmpty then none else Builtin.action? m name
  let special := function?.isNone && name ∈ specialCommands && !called.isEmpty
  let temporary := !called.isEmpty && !(special && !passes)
  let routes ← redirections.mapM (Route.ofRedirection e)
  let act : Run Nat := do
    match ← e.redirect routes with
    | some n => if special && !passes then throw (.fault n) else return n
    | none =>
      let given ← assignAll e temporary assignments
      trace e p given names
      match function?, action?, called with
      | _, _, [] => return (← get).substituted
      | some body, _, _ => callFunction e m body arguments
      | none, some action, _ => Builtin.run e action (special && !passes) name arguments
      | none, none, _ =>
        let s ← get
        if m.last && s.traps.isEmpty && s.jobs.all (·.ended.isSome) then
          Call.become e name arguments
        else Call.wait e name arguments
  let keepsRoutes := special && name = "exec"
  let done := if temporary then withSaved act else act
  if keepsRoutes then done else anyway done (Route.undo p.descriptors routes)

/-- Start commands of which every one reads what the one before it writes; the numbers of
    their processes are returned. -/
def startPipeline (e : Engine) (tested : Bool) : Option Nat → List Statement → Run (List Nat)
  | _, [] => return []
  | input, c :: rest => do
    let p ← perform (← get).process.child
    let p := input.elim p (p.withDescriptor 0)
    if rest.isEmpty then
      e.begin_ p (e.run c ⟨tested, true⟩)
      return [p.number]
    let (readEnd, writeEnd) ← perform System.addPipe
    e.begin_ (p.withDescriptor 1 writeEnd) (e.run c ⟨tested, true⟩)
    return p.number :: (← startPipeline e tested (some readEnd) rest)

/-- Run commands of which every one reads what the one before it writes. -/
def pipeline (e : Engine) (m : Manner) (commands : List Statement) : Run Nat := do
  let started ← startPipeline e m.tested none commands
  let statuses ← awaitAll settled started started
  return (started.getLast?.bind (statuses.lookup ·)).getD 0

/-- Run a command as a process of its own. -/
def subshell (e : Engine) (m : Manner) (c : Statement) (redirections : List Redirection) :
    Run Nat := do
  let routes ← redirections.mapM (Route.ofRedirection e)
  let s ← get
  let body : Run Nat := do
    match ← e.redirect routes with
    | some n => throw (.exit n)
    | none => e.run c ⟨m.tested, true⟩
  if m.last && s.traps.isEmpty && s.jobs.all (·.ended.isSome) then
    modify fun s => s.separate s.process
    throw (.exit (← body))
  else e.forked (← perform s.process.child) body

/-- Note that processes were started in the background. -/
def noteJob (processes : List Nat) : Run Unit :=
  modify fun s =>
    let places := s.jobs.map (·.place)
    let place := ((List.range (places.length + 1)).map (· + 1)).find? (!places.contains ·)
    let job : Job := ⟨place.getD 1, processes.map (·, none), false⟩
    { s with jobs := s.jobs ++ [job], lastJob := some job.number }

/-- Let a command run in the background. -/
def background (e : Engine) (c : Statement) : Run Nat := do
  reap System.turnLimit
  let index ← perform (System.add ⟨.device .nothing, 0, true, false, false⟩)
  let commands := match c with
    | .pipeline commands => commands
    | c => [c]
  let quiet (c : Statement) : Run Nat := do
    modify fun s => { s with ignored := [2, 3] ++ s.ignored }
    provide
    e.run c ⟨false, true⟩
  noteJob (← startPipeline ⟨fun c _ => quiet c, e.call⟩ false (some index) commands)
  return 0

/-- Whether a loop goes on after a pass, with the status so far. -/
inductive Pass where
  | next (status : Nat)
  | stop (status : Nat)

/-- A pass through a loop, in which loops may be left. -/
def pass (r : Run Pass) : Run Pass :=
  tryCatch r fun
    | .leave 0 | .leave 1 => return .stop 0
    | .leave (n + 2) => throw (.leave (n + 1))
    | .again 0 | .again 1 => return .next 0
    | .again (n + 2) => throw (.again (n + 1))
    | j => throw j

/-- Run something as a loop. -/
def looped (r : Run Nat) : Run Nat := do
  let loops := (← get).loops
  modify fun s => { s with loops := loops + 1 }
  anyway r (modify fun s => { s with loops })

/-- Run a command for every item. -/
def eachItem (run : Run Nat) (name : String) : Nat → List String → Run Nat
  | status, [] => return status
  | _, item :: rest => do
    assign name item false
    match ← pass (return .next (← run)) with
    | .next status => eachItem run name status rest
    | .stop status => return status

/-- How often a loop may go on. -/
def passLimit : Nat := 10000000

/-- Run a command as long as a condition holds. -/
def whileHolds (condition : Run Bool) (run : Run Nat) : Nat → Nat → Run Nat
  | 0, status => return status
  | fuel + 1, status => do
    let went ← pass do
      if ← condition then return .next (← run) else return .stop status
    match went with
    | .next status => whileHolds condition run fuel status
    | .stop status => return status

/-- The command of the first case that a text falls under. -/
def choose (e : Engine) (text : List Char) : List (List Word × Statement) → Run (Option Statement)
  | [] => return none
  | (patterns, c) :: rest => do
    if ← patterns.anyM fun w => return (← Expansion.pattern e.output w).accepts text then
      return some c
    else choose e text rest

/-- Whether a failure of a command ends a shell that is told to end so. -/
def counts : Statement → Bool
  | .simple .. | .pipeline _ | .subshell .. | .background .. => true
  | _ => false

/-- Note the line of a command. -/
def at_ (line : Nat) : Run Unit := modify fun s => { s with line }

/-- Run a command of any kind. -/
def step (e : Engine) (c : Statement) (m : Manner) : Run Nat :=
  match c with
  | .nothing => return (← get).status
  | .simple line assignments words redirections => do
    at_ line
    simple e m assignments words redirections
  | .pipeline commands => pipeline e m commands
  | .sequence first second => do
    let _ ← e.run first m.notLast
    e.run second m
  | .both first second => do
    let n ← e.run first ⟨true, false⟩
    if n = 0 then e.run second m else return n
  | .either first second => do
    let n ← e.run first ⟨true, false⟩
    if n = 0 then return n else e.run second m
  | .negated c => do
    let n ← e.run c ⟨true, false⟩
    return if n = 0 then 1 else 0
  | .branch condition yes no => do
    let n ← e.run condition ⟨true, false⟩
    if n = 0 then e.run yes m
    else
      match no with
      | .nothing => return 0
      | no => e.run no m
  | .loop whileFailing condition body =>
    looped <| whileHolds
      (do
        let n ← e.run condition ⟨true, false⟩
        return (n = 0) != whileFailing)
      (e.run body m.notLast) passLimit 0
  | .each line name items body => do
    at_ line
    let items ← match items with
      | some words => do pure (← words.mapM e.fields).flatten
      | none => pure (← get).arguments
    looped (eachItem (e.run body m.notLast) name 0 items)
  | .select line subject cases => do
    at_ line
    let text ← e.text subject
    match ← choose e text.toList cases with
    | none | some .nothing => return 0
    | some c => e.run c m
  | .subshell line c redirections => do
    at_ line
    subshell e m c redirections
  | .background line c => do
    at_ line
    background e c
  | .redirected line c redirections => do
    at_ line
    let routes ← redirections.mapM (Route.ofRedirection e)
    let before := (← get).process.descriptors
    anyway
      (do
        match ← e.redirect routes with
        | some n => if (← get).has 'e' && !m.tested then throw (.exit n) else return n
        | none => e.run c m.notLast)
      (Route.undo before routes)
  | .define _ name body => do
    modify fun s => { s with functions := (name, body) :: s.functions.filter (·.1 != name) }
    return 0

/-- How long it takes to run a command. -/
def commandTime : Nat := 20000

/-- Run a command, with what comes with every command. -/
def run (e : Engine) (c : Statement) (m : Manner) : Run Nat := do
  if (← get).has 'n' then return (← get).status
  perform (Act.spend commandTime)
  e.arrivals
  let status ← step e c m
  modify fun s => { s with status }
  e.arrivals
  if counts c && !m.tested && status ≠ 0 && (← get).has 'e' then throw (.exit status)
  return status

/-- How deep commands may stand in each other. -/
def depthLimit : Nat := 100000

/-- Run a command that may hold others up to a depth. -/
def runWithin (call : Process → String → List String → Act ExitStatus) :
    Nat → Statement → Manner → Run Nat
  | 0, _, _ => throw (.ended (.signaled 11))
  | depth + 1, c, m => run ⟨runWithin call depth, call⟩ c m

/-- How a shell runs commands. -/
def engine (call : Process → String → List String → Act ExitStatus) : Engine :=
  ⟨runWithin call depthLimit, call⟩

end CompileTree.Shell.Commands
