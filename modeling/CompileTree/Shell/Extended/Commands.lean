import CompileTree.Shell.Extended.Builtin

/-! # Running commands of the extended shell

How every kind of command runs, given how the commands in it do. Commands that stand
in each other are followed to a fixed depth.
-/

namespace CompileTree.Shell.Extended.Commands

open Files Step Text
open Extended.Builtin (Operand)

/-- What stands before a command that is shown. -/
def traceMark (e : Runner) : Step String := do
  let s ← get
  match s.text? "PS4" with
  | none => return ""
  | some text =>
    let cs := text.toList
    let shown ←
      if cs.any (· ∈ ['$', '\x60', '\\']) then
        match (Reader.wholeText .document).run (Source.ofText 0 false cs) with
        | .ok (ps, _) => do
          set { s with options := s.options.filter (· ≠ "xtrace") }
          let text ← anyway (Expansion.textOfParts e.outside ps)
            (modify fun after => { after with
              options := s.options, substituted := s.substituted, status := s.status })
          pure text.toList
        | .error _ => pure cs
      else pure cs
    return match shown with
      | [] => ""
      | c :: rest => String.ofList (List.replicate (max 1 s.level) c ++ rest)

/-- Show what is done. -/
def trace (e : Runner) (text : String) : Step Unit := do
  if (← get).has "xtrace" then
    let mark ← traceMark e
    let s ← get
    let descriptor := ((s.text? "BASH_XTRACEFD").bind String.toNat?).getD 2
    let _ ← perform (s.process.write descriptor (mark ++ text ++ "\n"))

/-- The spelling of a list that is assigned, with its words expanded. -/
def entriesText (entries : List Assigning.Entry) : String :=
  let shown : Assigning.Entry → List String
    | .next texts => texts.map Quoting.apostrophes
    | .under key appends value =>
      ["[" ++ Quoting.apostrophes key ++ "]" ++ (if appends then "+=" else "=") ++
        Quoting.apostrophes value]
  "(" ++ " ".intercalate (entries.flatMap shown) ++ ")"

/-- The text of an argument that was expanded. -/
def operandText : Operand → String
  | .text t => Quoting.traced t
  | o => Quoting.traced o.spelling

/-- Whether the arguments of a command may be assignments of lists. -/
def declares (words : List String) : Bool :=
  let command := words.dropWhile fun w => w ∈ ["command", "builtin"] || w.startsWith "-"
  (command.head?.any fun name => (Builtin.declaring.lookup name).isSome)

/-- The arguments of a command behind those before them, with their words expanded. -/
def operands (e : Runner) : List Operand → List Argument → Step (List Operand)
  | before, [] => return before
  | before, .word w :: rest => do
    let texts ← e.fields w
    operands e (before ++ texts.map .text) rest
  | before, .assignment (.of spelling name key appends given) :: rest => do
    if declares (before.map Operand.spelling) then
      let key ← Assigning.keyText e key
      let value ← Assigning.valueOf e given
      operands e (before ++ [.assigned name key appends value]) rest
    else
      match given with
      | .word w =>
        let key ← Assigning.keyText e key
        let value ← e.text w
        let o := Operand.assigned name key appends (.text value)
        operands e (before ++ [.text o.spelling]) rest
      | .list _ => operands e (before ++ [.text spelling]) rest

/-- Show a command before it runs. -/
def traceCommand (e : Runner) (os : List Operand) : Step Unit := do
  if (← get).has "xtrace" then
    for o in os do
      match o with
      | .assigned name _ appends (.list entries) =>
        trace e (name ++ (if appends then "+=" else "=") ++ entriesText entries)
      | _ => pure ()
    let shown : Operand → String
      | .assigned name _ _ (.list _) => name
      | o => operandText o
    trace e (" ".intercalate (os.map shown))

/-- Give variables what is assigned to them, one after the other. -/
def assignAll (e : Runner) (line : Nat) : List Assignment → Step Unit
  | [] => return
  | .of spelling name key appends given :: rest => do
    let key ← Assigning.keyText e key
    let value ← Assigning.valueOf e given
    let place := name ++ (key.elim "" fun k => "[" ++ k ++ "]") ++ (if appends then "+=" else "=")
    match value with
    | .text t => trace e (place ++ Quoting.tracedValue t)
    | .list _ => trace e spelling
    modify fun s => { s with line := s.base + line }
    Assigning.assignValue name key appends value
    assignAll e line rest

/-- The variables that are set for one command, behind those before them. -/
def temporary (e : Runner) : List Variable → List Assignment → Step (List Variable)
  | before, [] => return before
  | before, .of spelling name key appends given :: rest => do
    let value ← match given with
      | .word w => withScope ⟨.command, before⟩ (e.text w)
      | .list _ => pure ((spelling.dropWhile (· ≠ '=')).drop 1).copy
    let s ← get
    let old := s.find? name
    trace e (name ++ (if appends then "+=" else "=") ++ Quoting.tracedValue value)
    if key.isSome then
      complainPlainly ("\x60" ++ ((spelling.takeWhile (· ≠ '=')).copy) ++ "': not a valid identifier")
      temporary e before rest
    else if old.any (·.fixed) then
      complainPlainly (name ++ ": readonly variable")
      temporary e before rest
    else
      let value ← Values.given name none value appends
      let v : Variable := { Variable.plain name (.text value) with
        exported := true, integer := old.any (·.integer) }
      temporary e (v :: before.filter (·.name != name)) rest

/-- Call a function, to which some variables belong from the start. -/
def callFunction (e : Runner) (m : Manner) (f : Function) (given : List Variable)
    (arguments : List String) : Step Nat := do
  let s ← get
  let (hidden, traps) := s.traps.partition fun t => 64 < t.1 && !s.inherits t.1
  set { s with
    arguments, loops := 0, base := f.base, traps, line := f.line
    frames := ⟨f.name, f.source, s.line⟩ :: s.frames
    scopes := ⟨.function, given⟩ :: s.scopes }
  let left (after : State) : State :=
    let own := (after.scopes.head?.bind (·.find? "-")).bind (·.content.value?)
    let kept := own.map fun text => (text.splitOn " ").filter (· ≠ "")
    { after with
      arguments := s.arguments, loops := s.loops, base := s.base, frames := s.frames
      scopes := after.scopes.drop 1, line := s.line
      options := kept.getD after.options
      traps := hidden ++ after.traps.filter fun t => !(hidden.any (·.1 == t.1)) }
  let n ← tryCatch
    (do
      e.take debugTrap
      let n ← tryCatch (e.run f.body m.notLast) fun
        | .back n => return n
        | j => throw j
      e.take returnTrap
      return n)
    fun j => do
      -- What is provided for the end of the shell still sees the call.
      modify fun after => match j with
        | .exit _ => { left after with
          arguments := after.arguments, frames := after.frames, base := after.base }
        | _ => left after
      throw j
  modify left
  return n

/-- How a command is looked for. -/
structure Seeking where
  functions : Bool
  programs : Bool
  standardPath : Bool

/-- What a command does in the end. -/
inductive Deed where
  | nothing
  | function (f : Function)
  | builtin (name : String) (act : Runner → List Operand → Step Nat)
  | program
  /-- Tell what names mean. -/
  | tell (verbose standard : Bool)
  | refused (command text : String) (isUsage : Bool)

/-- What a command does, with what it is given; `fuel` bounds how often it is called by
    another one. -/
def deedOf (s : State) (m : Manner) : Nat → Seeking → List Operand → Deed × List Operand
  | 0, _, os => (.nothing, os)
  | _, _, [] => (.nothing, [])
  | fuel + 1, how, o :: rest =>
    let name := o.spelling
    match if how.functions then s.function? name else none with
    | some f => (.function f, rest)
    | none =>
      if name = "command" then
        match Builtin.options? ['p', 'v', 'V'] [] (rest.length + 1) (rest.map Operand.spelling) with
        | .error text => (.refused name text true, [])
        | .ok (os, given) =>
          let left := rest.drop (rest.length - given.length)
          let standard := Builtin.has os 'p'
          match (os.filter (·.1 != 'p')).getLast? with
          | some (letter, _) => (.tell (letter == 'V') standard, left)
          | none => deedOf s m fuel { how with functions := false, standardPath := standard } left
      else if name = "builtin" then
        let left := match rest with
          | .text "--" :: left => left
          | left => left
        match left with
        | [] => (.nothing, [])
        | o :: _ =>
          if o.spelling ∈ Builtin.commandNames && !s.disabled.contains o.spelling then
            deedOf s m fuel { how with functions := false, programs := false } left
          else (.refused name (o.spelling ++ ": not a shell builtin") false, [])
      else
        match if s.disabled.contains name then none else Builtin.action? m name with
        | some act => (.builtin name act, rest)
        | none => (.program, o :: rest)

/-- Note that a program was found. -/
def notePlace (name path : String) : Step Unit := do
  if !name.toList.contains '/' then
    modify fun s =>
      let hits := ((s.places.lookup name).map (·.2)).getD 0
      { s with places := (name, path, hits + 1) :: s.places.filter (·.1 != name) }

/-- Call another program, or a function that is there for names that are not known. -/
def callProgram (e : Runner) (m : Manner) (title : String) (standard : Bool) (name : String)
    (arguments : List String) : Step Nat := do
  let s ← get
  let path := if standard then some Calling.standardPath else s.text? "PATH"
  let (place, found) ← Calling.find path name arguments
  match found with
  | .ok (native, arguments) =>
    notePlace name place
    let s ← get
    let p := Calling.caller s place
    if m.last && s.traps.isEmpty && s.jobs.all (·.ended.isSome) then
      Calling.become e p native arguments
    else Calling.wait e p title native arguments
  | .error obstacle =>
    match obstacle, s.function? "command_not_found_handle" with
    | .unknown, some f =>
      e.forked (← perform s.process.child) title (callFunction e m f [] (name :: arguments))
    | obstacle, _ => Calling.tell name obstacle

/-- Run a command that consists of words. -/
def simple (e : Runner) (m : Manner) (c : Statement) (line : Nat) (assignments : List Assignment)
    (arguments : List Argument) (redirections : List Redirection) : Step Nat := do
  modify fun s => { s with substituted := none }
  let os ← operands e [] arguments
  let s ← get
  let before := s.process.descriptors
  let (deed, given) := deedOf s m (os.length + 1) ⟨true, true, false⟩ os
  let within (r : Step Nat) : Step Nat := do
    if ← Redirecting.follow e redirections then r else return 1
  let undone (r : Step Nat) : Step Nat := anyway (within r) (Redirecting.undo before redirections)
  if os.isEmpty then
    assignAll e line assignments
    return ← undone (return (← get).substituted.getD 0)
  let own ← temporary e [] assignments
  traceCommand e os
  modify fun s => { s with line := s.base + line }
  let scope : Scope := ⟨.command, own⟩
  let inScope (r : Step Nat) : Step Nat := if own.isEmpty then r else withScope scope r
  let status ← match deed with
    | .nothing => undone (return 0)
    | .function f => undone (callFunction e m f own (given.map Operand.spelling))
    | .builtin name act =>
      let r := inScope (Builtin.run name (act e given))
      if name = "exec" then within r else undone r
    | .program =>
      let names := given.map Operand.spelling
      let isStandard := (os.map Operand.spelling).take 2 == ["command", "-p"]
      undone (inScope
        (callProgram e m (Printing.command c) isStandard (names.headD "") (names.drop 1)))
    | .tell verbose standard =>
      undone (named (some "command") (Builtin.tellMeanings verbose standard (given.map Operand.spelling)))
    | .refused command text isUsage =>
      undone (named (some command) do
        complain text
        if isUsage then Builtin.usage else return 1)
  let last := ((os.getLast?).map Operand.spelling).getD ""
  modify fun s => { s with lastWord := last }
  return status

/-- Start commands of which every one reads what the one before it writes; the numbers of
    their processes are returned, and what the one behind them reads if there is one. -/
def startPipeline (e : Runner) (tested more : Bool) :
    Option Nat → List Statement → Step (List Nat × Option Nat)
  | input, [] => return ([], input)
  | input, c :: rest => do
    let p ← perform (← get).process.child
    let p := input.elim p (p.withDescriptor 0)
    if rest.isEmpty && !more then
      e.begin_ p (e.run c ⟨tested, c.isAlone⟩)
      return ([p.number], none)
    let (readEnd, writeEnd) ← perform System.addPipe
    e.begin_ (p.withDescriptor 1 writeEnd) (e.run c ⟨tested, c.isAlone⟩)
    let (numbers, last) ← startPipeline e tested more (some readEnd) rest
    return (p.number :: numbers, last)

/-- The status of a pipeline, given those of its commands. -/
def pipelineStatus (s : State) (statuses : List Nat) : Nat :=
  if s.has "pipefail" then ((statuses.reverse.find? (· ≠ 0))).getD 0
  else statuses.getLast?.getD 0

/-- Run commands of which every one reads what the one before it writes. -/
def pipeline (e : Runner) (m : Manner) (commands : List Statement) : Step Nat := do
  let line := (← get).line
  let staysHere := (← get).hasExtra "lastpipe"
  let away := if staysHere then commands.dropLast else commands
  let (started, input) ← startPipeline e m.tested staysHere none away
  let own? ← match if staysHere then commands.getLast? else none with
    | none => pure none
    | some c => do
      let before := (← get).process.descriptors
      changeProcess fun p => input.elim p (p.withDescriptor 0)
      let n ← anyway (e.run c m.notLast) (changeProcess fun p => { p with descriptors := before })
      pure (some n)
  let ended ← awaitAll (fun how => return how) started started
  modify fun s => { s with line }
  let progress := (started.zip away).map fun (number, c) =>
    Progress.mk number (ended.lookup number) (Printing.command c)
  let isFailure (p : Progress) : Bool := p.how != some (.exited 0)
  let telling := if (← get).has "pipefail" then (progress.reverse.find? isFailure) else progress.getLast?
  if own?.isNone then tellEnd true (telling.bind (·.how)) progress
  notices
  let statuses := started.map fun number => ((ended.lookup number).map statusOf).getD 0
  let statuses := statuses ++ own?.toList
  modify fun s => { s with statuses }
  return pipelineStatus (← get) statuses

/-- Run a command as a process of its own. -/
def subshell (e : Runner) (m : Manner) (c : Statement) (title : String) : Step Nat := do
  let s ← get
  let body : Step Nat := e.run c ⟨m.tested, c.isAlone || c.endsBare⟩
  if m.last && s.traps.isEmpty && s.jobs.all (·.ended.isSome) then
    modify fun s => s.separate s.process
    throw (.exit (← body))
  else e.forked (← perform s.process.child) title body

/-- Let a command run in the background. -/
def background (e : Runner) (c : Statement) : Step Nat := do
  reap
  let index ← perform (System.add ⟨.device .nothing, 0, true, false, false⟩)
  let commands := match c with
    | .pipeline commands => commands
    | c => [c]
  let quiet (c : Statement) : Step Nat := do
    modify fun s => { s with ignored := [2, 3] ++ s.ignored }
    provide
    e.run c ⟨false, c.isAlone⟩
  let (started, _) ← startPipeline ⟨fun c _ => quiet c, e.call⟩ false false (some index) commands
  noteJob true (started.zip (commands.map Printing.command))
  return 0

/-- The highest descriptor by which the shell is joined to what works beside it. -/
def highestJoint : Nat := 63

/-- Start a command that works beside the shell. Its descriptors stand in an array, and its
    number in a variable. -/
def beside (e : Runner) (name : String) (c : Statement) (title : String) : Step Nat := do
  let s ← get
  let used := s.process.descriptors.map (·.1)
  let free := ((List.range (highestJoint + 1)).map (highestJoint - ·)).filter (!used.contains ·)
  let output := free.getD 0 0
  let input := free.getD 3 0
  let (readOutput, writeOutput) ← perform System.addPipe
  let (readInput, writeInput) ← perform System.addPipe
  let p ← perform s.process.child
  e.begin_ ((p.withDescriptor 0 readInput).withDescriptor 1 writeOutput) do
    modify fun inner => { inner with partners := [] }
    e.run c ⟨false, c.isAlone⟩
  noteJob true [(p.number, title)]
  changeProcess fun q => (q.withDescriptor output readOutput).withDescriptor input writeInput
  modify fun s => { s with partners := ⟨name, p.number, output, input⟩ :: s.partners }
  Values.setList name [toString output, toString input]
  Values.setText (name ++ "_PID") (toString p.number)
  return 0

/-- Whether a loop goes on after a pass, with the status so far. -/
inductive Pass where
  | next (status : Nat)
  | stop (status : Nat)

/-- A pass through a loop, in which loops may be left. -/
def pass (r : Step Pass) : Step Pass :=
  tryCatch r fun
    | .leave 0 | .leave 1 => return .stop (← get).status
    | .leave (n + 2) => throw (.leave (n + 1))
    | .again 0 | .again 1 => return .next (← get).status
    | .again (n + 2) => throw (.again (n + 1))
    | j => throw j

/-- Run something as a loop. -/
def looped (r : Step Nat) : Step Nat := do
  let loops := (← get).loops
  modify fun s => { s with loops := loops + 1 }
  anyway r (modify fun s => { s with loops })

/-- Whether a name may be that of a variable; it is told if it may not. -/
def isAssignable (name : String) : Step Bool := do
  let is := Script.isName name.toList
  if !is then complainPlainly ("\x60" ++ name ++ "': not a valid identifier")
  return is

/-- Give the variable of a loop its value; whether that is possible is returned. -/
def assignItem (name item : String) : Step Bool := do
  let s ← get
  if ((s.find? (Values.resolve s Values.referenceLimit name)).any (·.fixed)) then
    complainPlainly (name ++ ": readonly variable")
    return false
  Values.setText name item
  return true

/-- Run a command for every item. -/
def eachItem (show_ : Step Unit) (run : Step Nat) (name : String) : Nat → List String → Step Nat
  | status, [] => return status
  | _, item :: rest => do
    show_
    if !(← assignItem name item) then return 1
    match ← pass (return .next (← run)) with
    | .next status => eachItem show_ run name status rest
    | .stop status => return status

/-- How often a loop may go on. -/
def passLimit : Nat := 10000000

/-- Run a command as long as a condition holds. -/
def whileHolds (test : Step Bool) (run : Step Nat) : Nat → Nat → Step Nat
  | 0, status => return status
  | fuel + 1, status => do
    let went ← pass do
      if ← test then return .next (← run) else return .stop status
    match went with
    | .next status => whileHolds test run fuel status
    | .stop status => return status

/-- The value of an expression that a command consists of; nothing is returned if something
    is wrong with it. -/
def expression (e : Runner) (text : Word) : Step (Option Int64) := do
  let text ← e.text text
  trace e ("(( " ++ text ++ " ))")
  tryCatch (named (some "((") (some <$> Values.calculate text)) fun
    | .discard _ => return none
    | j => throw j

/-- Run a command as long as an expression is not zero, and another one behind each pass. -/
def countPasses (test next : Step (Option Int64)) (run : Step Nat) : Nat → Nat → Step Nat
  | 0, status => return status
  | fuel + 1, status => do
    match ← test with
    | none => return 1
    | some 0 => return status
    | some _ =>
      match ← pass (return .next (← run)) with
      | .stop status => return status
      | .next status =>
        match ← next with
        | none => return 1
        | some _ => countPasses test next run fuel status

/-- Whether a text falls under one of some patterns. -/
def fallsUnder (e : Runner) (text : List Char) (patterns : List Word) : Step Bool :=
  patterns.anyM fun w => do
    let marked ← Expansion.marked e.outside w
    let s ← get
    return (Glob.ofMarked (s.hasExtra "extglob") marked).accepts (s.hasExtra "nocasematch") text

/-- Run the commands of the cases that a text falls under; `falls` tells whether it need not
    fall under the first one. -/
def choose (e : Runner) (m : Manner) (text : List Char) : Bool → Nat → List Case → Step Nat
  | _, status, [] => return status
  | falls, status, .of patterns body ending :: rest => do
    let yes ← if falls then pure true else fallsUnder e text patterns
    if !yes then choose e m text false status rest
    else
      let run (m : Manner) : Step Nat :=
        match body with
        | .nothing => return 0
        | c => e.run c m
      match ending with
      | .stop => run m
      | .fall => choose e m text true (← run m.notLast) rest
      | .test => choose e m text false (← run m.notLast) rest

/-- The items of a menu in columns. -/
def menuText (items : List String) : String :=
  let count := items.length
  let indexWidth := (toString count).length
  let width := (items.map String.length).foldl max 0 + indexWidth + 4
  let columns := max 1 (80 / width)
  let rows := if count = 0 then 1 else (count + columns - 1) / columns
  let columns := if count = 0 then 1 else (count + rows - 1) / rows
  let rows := if rows = 1 then columns else rows
  let firstWidth := (toString rows).length
  let item (i : Nat) : String :=
    let w := if i < rows then firstWidth else indexWidth
    let number := toString (i + 1)
    "".pushn ' ' (w - number.length) ++ number ++ ") " ++ items.getD i ""
  let row (r : Nat) : String :=
    let places := ((List.range (count / rows + 1)).map (r + rows * ·)).filter (· < count)
    let cells := places.zipIdx.map fun (i, k) =>
      if k + 1 = places.length then item i
      else item i ++ gap (k * width + (item i).length) (k * width + width)
    String.join cells ++ "\n"
  String.join ((List.range (min rows count)).map row)
where
  /-- Tabs and blanks from one column to another one. -/
  gap (from_ to_ : Nat) : String :=
    let tabs := to_ / 8 - from_ / 8
    let start := if tabs = 0 then from_ else to_ / 8 * 8
    "".pushn '\t' tabs ++ "".pushn ' ' (to_ - start)

/-- Ask which of some items to take; `fuel` bounds how often that is asked. -/
def askItem (e : Runner) (items : List String) : Nat → Bool → Step (Option String)
  | 0, _ => return none
  | fuel + 1, showsMenu => do
    let s ← get
    let mark := (s.text? "PS3").getD "#? "
    let _ ← perform (s.process.write 2 ((if showsMenu then menuText items else "") ++ mark))
    if (← Builtin.run "read" (Builtin.read e [])) ≠ 0 then
      say "\n"
      return none
    let reply := ((← get).text? "REPLY").getD ""
    if reply = "" then askItem e items fuel true
    else
      match Builtin.integer? reply with
      | some n => return some (if n < 1 then "" else (items[n.toNat - 1]?).getD "")
      | none => return some ""

/-- Run a command for items that are asked for. -/
def askedItems (e : Runner) (run : Step Nat) (name : String) (items : List String) :
    Nat → Bool → Nat → Step Nat
  | 0, _, status => return status
  | fuel + 1, showsMenu, _ => do
    match ← askItem e items passLimit showsMenu with
    | none => return 1
    | some item =>
      if !(← assignItem name item) then return 1
      match ← pass (return .next (← run)) with
      | .stop status => return status
      | .next status =>
        let empty := ((← get).text? "REPLY").getD "" = ""
        askedItems e run name items fuel empty status

/-- A time in seconds with so many decimals. -/
def secondsText (nanoseconds places : Nat) : String :=
  let units := nanoseconds / Nat.pow 10 (9 - places)
  let whole := toString (units / Nat.pow 10 places)
  let rest := toString (units % Nat.pow 10 places)
  if places = 0 then whole else whole ++ "." ++ "".pushn '0' (places - rest.length) ++ rest

/-- A time in minutes and seconds. -/
def minutesText (nanoseconds places : Nat) : String :=
  toString (nanoseconds / 60000000000) ++ "m" ++ secondsText (nanoseconds % 60000000000) places ++ "s"

/-- A format that shows how long a command ran. -/
def timeText (nanoseconds : Nat) : List Char → List Char
  | '%' :: '%' :: cs => '%' :: timeText nanoseconds cs
  | '%' :: 'P' :: cs => "0.00".toList ++ timeText nanoseconds cs
  | '%' :: 'l' :: c :: cs => shown c true 3 ++ timeText nanoseconds cs
  | '%' :: d :: 'l' :: c :: cs =>
    if d.isDigit then shown c true (min 3 (d.toNat - 48)) ++ timeText nanoseconds cs
    else shown d false 3 ++ timeText nanoseconds ('l' :: c :: cs)
  | '%' :: d :: c :: cs =>
    if d.isDigit then shown c false (min 3 (d.toNat - 48)) ++ timeText nanoseconds cs
    else shown d false 3 ++ timeText nanoseconds (c :: cs)
  | '%' :: c :: cs => shown c false 3 ++ timeText nanoseconds cs
  | c :: cs => c :: timeText nanoseconds cs
  | [] => []
where
  shown (letter : Char) (long : Bool) (places : Nat) : List Char :=
    let n := if letter = 'R' then nanoseconds else 0
    (if long then minutesText n places else secondsText n places).toList

/-- Run a command, and tell how long that took. -/
def timed (e : Runner) (m : Manner) (brief : Bool) (c : Statement) : Step Nat := do
  let start := (← getThe System).clock
  let n ← match c with
    | .nothing => pure 0
    | c => e.run c m.notLast
  let taken := (← getThe System).clock - start
  let s ← get
  let usual := "\nreal\t%3lR\nuser\t%3lU\nsys\t%3lS"
  let format := if brief then "real %2R\nuser %2U\nsys %2S" else (s.text? "TIMEFORMAT").getD usual
  if format ≠ "" then
    perform (s.process.complain (String.ofList (timeText taken format.toList)))
  return n

/-- Whether a failure of a command counts by itself. -/
def counts : Statement → Bool
  | .simple .. | .pipeline _ | .subshell .. | .expression .. | .condition .. => true
  | .redirected c _ => counts c
  | _ => false

/-- Note the line of a command. -/
def at_ (line : Nat) : Step Unit := modify fun s => { s with line := s.base + line }

/-- Note the command that is being run, and do what is provided for before it. -/
def announce (e : Runner) (text : Thunk String) : Step Unit := do
  modify fun s => if s.handling then s else { s with current := text }
  e.take debugTrap

/-- The items of a loop. -/
def itemsOf (e : Runner) (items : Option (List Word)) : Step (List String) := do
  match items with
  | some words => return (← words.mapM e.fields).flatten
  | none => return (← get).arguments

/-- Run a command of any kind. -/
def step (e : Runner) (c : Statement) (m : Manner) : Step Nat :=
  match c with
  | .nothing => return (← get).status
  | .simple line assignments arguments redirections => do
    at_ line
    announce e (Printing.command c)
    simple e m c line assignments arguments redirections
  | .pipeline commands => pipeline e m commands
  | .sequence _ first second => do
    let _ ← e.run first m.notLast
    e.run second m
  | .both first second => do
    let n ← e.run first ⟨true, false⟩
    if n = 0 then e.run second m else return n
  | .either first second => do
    let n ← e.run first ⟨true, false⟩
    if n = 0 then return n else e.run second m
  | .negated c => do
    let n ← match c with
      | .nothing => pure 0
      | c => e.run c ⟨true, false⟩
    return if n = 0 then 1 else 0
  | .timed brief c => timed e m brief c
  | .branch test yes no => do
    let n ← e.run test ⟨true, false⟩
    if n = 0 then e.run yes m
    else
      match no with
      | none => return 0
      | some no => e.run no m
  | .loop whileFailing test body =>
    looped <| whileHolds
      (do
        let n ← e.run test ⟨true, false⟩
        return (n = 0) != whileFailing)
      (e.run body m.notLast) passLimit 0
  | .each line name items body => do
    at_ line
    if !(← isAssignable name) then return 1
    let shown := "for " ++ name ++ " in " ++ Printing.items items
    let items ← itemsOf e items
    let show_ : Step Unit := do
      at_ line
      announce e shown
      trace e shown
    looped (eachItem show_ (e.run body m.notLast) name 0 items)
  | .menu line name items body => do
    at_ line
    if !(← isAssignable name) then return 1
    let shown := "select " ++ name ++ " in " ++ Printing.items items
    let items ← itemsOf e items
    if items.isEmpty then return 0
    announce e shown
    trace e shown
    looped (askedItems e (e.run body m.notLast) name items passLimit true 0)
  | .count line start test next body => do
    let value (otherwise : Int64) (w : Word) : Step (Option Int64) := do
      at_ line
      if w.parts.isEmpty then return some otherwise else expression e w
    match ← value 1 start with
    | none => return 1
    | some _ => looped (countPasses (value 1 test) (value 1 next) (e.run body m.notLast) passLimit 0)
  | .select line subject cases => do
    at_ line
    let shown := "case " ++ subject.spelling ++ " in"
    announce e (shown ++ " ")
    trace e shown
    let text ← e.text subject
    choose e m text.toList false 0 cases
  | .group c => e.run c m
  | .subshell line inner => do
    at_ line
    modify fun s => if s.handling then s else { s with current := Printing.command c }
    subshell e m inner (Printing.command c)
  | .background c => background e c
  | .partner name inner => beside e name inner (Printing.command c)
  | .expression line text => do
    at_ line
    announce e (Printing.command c)
    match ← expression e text with
    | none => return 1
    | some n => return Conditions.statusOf (n != 0)
  | .condition line test => do
    at_ line
    announce e (Printing.command c)
    let show_ (text : String) : Step Unit := named none (trace e ("[[ " ++ text ++ " ]]"))
    tryCatch (named (some "[[") (Conditions.status e show_ test)) fun
      | .discard n => return n
      | j => throw j
  | .redirected inner redirections => do
    let inside ← match inner with
      | .subshell line _ => do
        at_ line
        pure m
      | _ => pure m.notLast
    let before := (← get).process.descriptors
    let undo := Redirecting.undo before redirections
    let n ← tryCatch
      (do
        if ← Redirecting.follow e redirections then e.run inner inside else return 1)
      fun j => do
        match j with
        | .exit _ => if !(← get).has "errexit" then undo
        | _ => undo
        throw j
    undo
    return n
  | .define line name body => do
    modify fun s =>
      let source := match s.frames.head? with
        | some f => f.source
        | none => "environment"
      let old := s.function? name
      let f : Function := ⟨name, body, source, s.base, s.base + line, old.any (·.exported)⟩
      { s with functions := f :: s.functions.filter (·.name != name) }
    return 0

/-- How long it takes to run a command. -/
def commandTime : Nat := 20000

/-- Run a command, with what comes with every command. -/
def run (e : Runner) (c : Statement) (m : Manner) : Step Nat := do
  let before ← get
  if before.has "noexec" then return before.status
  perform (Act.spend commandTime)
  e.arrivals
  let status ← step e c m
  Runner.closeChannels before.channels
  modify fun s => { s with status }
  match c with
  | .simple .. | .subshell .. | .expression .. | .condition .. =>
    modify fun s => { s with statuses := [status] }
  | _ => pure ()
  e.arrivals
  if counts c && !m.tested && status ≠ 0 then
    e.take failureTrap
    if (← get).has "errexit" then throw (.exit status)
  modify fun s => { s with line := before.line }
  return status

/-- How deep commands may stand in each other. -/
def depthLimit : Nat := 20000

/-- Run a command that may hold others up to a depth. -/
def runWithin (call : Process → String → List String → Act ExitStatus) :
    Nat → Statement → Manner → Step Nat
  | 0, _, _ => throw (.ended (.signaled 11))
  | depth + 1, c, m => run ⟨runWithin call depth, call⟩ c m

/-- How a shell runs commands. -/
def runner (call : Process → String → List String → Act ExitStatus) : Runner :=
  ⟨runWithin call depthLimit, call⟩

end CompileTree.Shell.Extended.Commands
