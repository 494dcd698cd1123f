import CompileTree.Shell.Extended.Builtin.Arguments
import CompileTree.Shell.Extended.Calling

/-! # Commands for the course of a script

Texts and files are run as commands, and loops, functions and shells are left.
-/

namespace CompileTree.Shell.Extended.Builtin

open Files Step

/-- Arguments behind the mark that no options follow. -/
def plainArguments : List String → List String
  | "--" :: rest => rest
  | all => all

/-- The number among arguments that may have one, and nothing else; what is wrong ends
    everything with a status. -/
def onlyNumber (otherwise : Int) (arguments : List String) (wrong : Leap) : Step Int := do
  match plainArguments arguments with
  | [] => return otherwise
  | a :: rest =>
    match integer? a with
    | none =>
      complain (a ++ ": numeric argument required")
      throw wrong
    | some n =>
      if rest.isEmpty then return n
      else discard "too many arguments"

/-- A number as the status of a process. -/
def statusFrom (n : Int) : Nat := (n % 256).toNat

/-- End the shell. What is provided for its end is done where it ends, so that it sees the
    variables of functions that are being run. -/
def exit : Action := fun e arguments => do
  let n ← onlyNumber (← get).status arguments (.exit 2)
  throw (.ended (← e.leave (statusFrom n)))

/-- Return from a function or file. -/
def back : Action := fun _ arguments => do
  let n ← onlyNumber (← get).status arguments (.back 2)
  if (← get).frames.any (·.name != "main") then throw (.back (statusFrom n))
  else
    complain "can only \x60return' from a function or sourced script"
    return 2

/-- Leave loops in one of two ways. -/
def leaveLoops (leap : Nat → Leap) : Action := fun _ arguments => do
  let loops := (← get).loops
  if loops = 0 then
    complain "only meaningful in a \x60for', \x60while', or \x60until' loop"
    return 0
  let n ← onlyNumber 1 arguments (.exit 128)
  if n ≤ 0 then
    complain (toString n ++ ": loop count out of range")
    modify fun s => { s with status := 1 }
    throw (.leave loops)
  else
    modify fun s => { s with status := 0 }
    throw (leap (min n.toNat loops))

/-- Run the words of the arguments as commands. -/
def evaluate (m : Manner) : Action := fun e arguments =>
  withOptions [] [] arguments fun _ rest => do
    if rest.isEmpty then return 0
    let s ← get
    set { s with command := none }
    anyway (e.evaluate m.notLast (some "eval") (s.line - 1) (" ".intercalate rest))
      (modify fun after => { after with command := s.command })

/-- The path of a file that is to be run as commands of this shell. -/
def sourcePath (name : String) : Step String := do
  let s ← get
  let t := (← getThe System).files
  if '/' ∈ name.toList then return name
  let isPlain (path : String) : Bool := t.isFile s.process.working (Process.path path)
  let found := if s.hasExtra "sourcepath" then
      (Calling.candidates ((s.text? "PATH").getD "") name).find? isPlain
    else none
  return found.getD name

/-- Run a file as commands of this shell. -/
def source : Action := fun e arguments =>
  withOptions [] [] arguments fun _ rest => do
    match rest with
    | [] =>
      complain "filename argument required"
      usage
    | name :: given =>
      let path ← sourcePath name
      let s ← get
      match ← perform (s.process.openFile path .read) with
      | .error reason =>
        complainPlainly (path ++ ": " ++ reason.text)
        e.take returnTrap
        return 1
      | .ok index =>
        let isDirectory := match (← getThe System).openFiles[index]? with
          | some ⟨.directory _, _, _, _, _⟩ => true
          | _ => false
        if isDirectory then
          complain (path ++ ": is a directory")
          return 1
        set { s with
          frames := ⟨"source", path, s.line⟩ :: s.frames
          arguments := if given.isEmpty then s.arguments else given
          level := s.level + 1
          command := none }
        let mine := (← get).arguments
        let status ← anyway
          (tryCatch (e.evaluateFile index) fun
            | .back n => return n
            | j => throw j)
          (modify fun after => { after with
            frames := s.frames, command := s.command, line := s.line, level := s.level
            arguments := if given.isEmpty || !after.arguments.isSuffixOf mine then after.arguments
              else s.arguments })
        if (← get).traps.any (·.1 == returnTrap) then e.take returnTrap
        return status

/-- The path of a file from the root on. -/
def wholePath (s : State) (path : String) : String :=
  if path.startsWith "/" then path
  else
    let rest := if path.startsWith "./" then ((path.drop 2).copy) else path
    s.directory ++ (if s.directory.endsWith "/" then "" else "/") ++ rest

/-- Become another program, or keep the redirections. -/
def become : Action := fun e arguments =>
  withOptions ['c', 'l'] ['a'] arguments fun os rest => do
    match rest with
    | [] => return 0
    | name :: given =>
      let s ← get
      let t := (← getThe System).files
      match Calling.pathOf? t s.process (s.text? "PATH") name with
      | none => fail (some (name ++ ": not found")) none 127
      | some path =>
        let whole := wholePath s path
        let p := Calling.caller s whole
        let p := if has os 'c' then { p with environment := [] } else p
        let called := (if has os 'l' then "-" else "") ++ (valueOf? os 'a').getD name
        match Calling.runnerAt s t p whole (called :: given) with
        | .ok (native, arguments) => Calling.become e p native arguments
        | .error .unknown => fail (some (name ++ ": not found")) none 127
        | .error .nothing => throw (.exit 0)
        | .error (.bare text status) => do
          perform (s.process.complain text)
          fail none none status
        | .error (.fault text status) =>
          let isRunnable := (programAt t p.working whole).toOption.isSome
          let second := if status = 127 || isRunnable then none
            else some (whole ++ ": cannot execute: " ++ Error.permissionDenied.text)
          named none (complain text)
          fail none second status
where
  fail (own second : Option String) (status : Nat) : Step Nat := do
    for text in own.toList ++ second.toList do complain text
    if (← get).hasExtra "execfail" then return status else throw (.exit status)

end CompileTree.Shell.Extended.Builtin
