import CompileTree.Shell.Extended.Running
import CompileTree.Shell.Program

/-! # Calling programs

Where the extended shell finds the programs that its commands name, and how they run. A
file that may be run and has no known format is taken for a script of the shell, unless
its first line shows that it is no text.
-/

namespace CompileTree.Shell.Extended.Calling

open Files Text Step

/-- Where the shell stands. -/
def shellPath : String := "/bin/bash"

/-- Why a program cannot be called. -/
inductive Obstacle where
  /-- There is no program of that name. -/
  | unknown
  /-- What is told, and the status for it. -/
  | fault (text : String) (status : Nat)
  /-- As before, but no line is told. -/
  | bare (text : String) (status : Nat)
  /-- There is nothing to run in the file. -/
  | nothing

/-- How many bytes of a file tell whether it is a text. -/
def sampleSize : Nat := 80

/-- Whether the first lines of a file show that it is no text. -/
def isBinary (sample : List UInt8) : Bool :=
  let lines : List UInt8 → List UInt8 := fun bytes => bytes.takeWhile (· ≠ 10)
  let first := lines sample
  let second := if sample.take 2 = [35, 33] then lines (sample.drop (first.length + 1)) else []
  (first ++ second).contains 0

/-- The interpreter that the first line of a script names. -/
def interpreter? (bytes : ByteArray) : Option String :=
  match (ofBytes (bytes.extract 0 sampleSize)).toList with
  | '#' :: '!' :: cs =>
    let cs := cs.dropWhile Format.isGap
    some (String.ofList (cs.takeWhile fun c => !(Format.isGap c || c == '\n')))
  | _ => none

/-- What a file runs, given by the path on which it was found. -/
def runnerAt (s : State) (t : Tree) (p : Process) (path : String) (arguments : List String) :
    Except Obstacle (String × List String) :=
  match runner t p path arguments with
  | .ok found => .ok found
  | .error e =>
    let status := if e == .notFound then 127 else 126
    match t.entry p.working true (Process.path path), e with
    | .ok (_, .directory), _ => .error (.fault (path ++ ": " ++ Error.isADirectory.text) status)
    | .ok (_, .file bytes true), .badFormat =>
      let sample := (bytes.extract 0 sampleSize).toList
      if sample.isEmpty then .error .nothing
      else if isBinary sample then
        .error (.fault (path ++ ": cannot execute binary file: " ++ Error.badFormat.text) 126)
      else .ok ("bash", shellPath :: path :: arguments.drop 1)
    | .ok (_, .file _ true), .notFound =>
      .error (.fault (path ++ ": cannot execute: required file not found") 127)
    | .ok (_, .file bytes true), e =>
      match e, interpreter? bytes with
      | .tooManyArguments, _ | _, none => .error (.fault (path ++ ": " ++ e.text) 126)
      | e, some interpreter =>
        .error (.bare (s.name ++ ": " ++ path ++ ": " ++ interpreter ++ ": bad interpreter: " ++ e.text) 126)
    | _, e => .error (.fault (path ++ ": " ++ e.text) status)

/-- The paths at which a program is sought. -/
def candidates (searchPath name : String) : List String :=
  (searchPath.toList.splitOn ':').map fun cs =>
    let directory := if cs.isEmpty then "." else String.ofList cs
    directory ++ (if directory.endsWith "/" then "" else "/") ++ name

/-- Whether a path leads to a file that may be run. -/
def mayRun (t : Tree) (p : Process) (path : String) : Bool :=
  (programAt t p.working path).toOption.isSome

/-- The path at which a program stands that is sought by a name; a file that may not be run
    only counts if there is no other one. -/
def pathOf? (t : Tree) (p : Process) (searchPath : Option String) (name : String) :
    Option String :=
  if '/' ∈ name.toList then some name
  else if name = "" then none
  else if searchPath.getD "" = "" then some name
  else
    let paths := candidates (searchPath.getD "") name
    (paths.find? (mayRun t p)).or
      (paths.find? fun path => t.isFile p.working (Process.path path))

/-- The search path that stands for all programs of the system. -/
def standardPath : String := "/usr/local/sbin:/usr/local/bin:/usr/sbin:/usr/bin:/sbin:/bin"

/-- The functions that are handed on, as variables. -/
def handedFunctions (s : State) : List (String × String) :=
  (s.functions.filter (·.exported)).map fun f =>
    ("BASH_FUNC_" ++ f.name ++ "%%", Printing.handedOn f.body)

/-- The process as a program is called by it that stands at a path. -/
def caller (s : State) (path : String) : Process :=
  let environment := s.environment.filter (·.1 != "_") ++ handedFunctions s ++ [("_", path)]
  { s.alone s.process with environment }

/-- What a command runs, with the path on which it was found. -/
def find (searchPath : Option String) (name : String) (arguments : List String) :
    Step (String × Except Obstacle (String × List String)) := do
  let s ← get
  let t := (← getThe System).files
  match pathOf? t s.process searchPath name with
  | none => return ("", .error .unknown)
  | some path => return (path, runnerAt s t (caller s path) path (name :: arguments))

/-- Tell why a program cannot be called; the status for it is returned. -/
def tell (name : String) : Obstacle → Step Nat
  | .unknown => do
    complain (name ++ ": command not found")
    return 127
  | .fault text status => do
    complain text
    return status
  | .bare text status => do
    perform ((← get).process.complain text)
    return status
  | .nothing => return 0

/-- Become another program. -/
def become {α : Type} (e : Runner) (p : Process) (native : String) (arguments : List String) :
    Step α := do
  let how ← perform (e.call p native arguments)
  throw (.ended how)

/-- Call another program, and wait for it. -/
def wait (e : Runner) (p : Process) (title native : String) (arguments : List String) :
    Step Nat := do
  forget (·.waited)
  let child ← perform p.child
  perform (child.start (e.call child native arguments))
  Runner.settled child.number (← await child.number) title

end CompileTree.Shell.Extended.Calling
