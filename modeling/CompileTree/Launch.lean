import CompileTree.Compiler
import CompileTree.Invocation
import CompileTree.Log
import CompileTree.Text.Shown

/-! # Launching

An invocation is launched with its arguments in a fresh file of its own, named
on the command line after an at sign. What the program writes goes to a log of
its own, or straight to the outputs if the launch is verbose.
-/

namespace CompileTree

open Files Shell

/-- Where launches keep their files. -/
structure LaunchContext where
  scratchDirectory : Path
  /-- Needed unless launches are verbose. -/
  logDirectory : Option Path
  verbose : Bool
  deriving DecidableEq, Repr

/-- Why a program was not launched. -/
inductive LaunchError where
  | emptyCommand
  | noLogDirectory
  /-- The program or an argument holds a NUL. -/
  | nulInCommand
  /-- An argument that was to be kept in a file cannot be quoted. -/
  | unquotable
  | files (e : Files.Error)
  /-- The file for the arguments cannot be made. -/
  | drawing (e : Files.Error) (p : Path)
  deriving DecidableEq, Repr

namespace LaunchError

/-- How an error is told. -/
def message : LaunchError → String
  | .emptyCommand => "empty command"
  | .noLogDirectory => "log directory is not set"
  | .nulInCommand => "nul byte found in provided data"
  | .unquotable => Failure.Cause.unquotable.message
  | .files e => e.message
  | .drawing e p => e.message ++ " at path " ++ Text.shownText p.text

end LaunchError

namespace Launch

/-- The characters of the names that are drawn. -/
def drawnChars : List Char :=
  "ABCDEFGHIJKLMNOPQRSTUVWXYZabcdefghijklmnopqrstuvwxyz0123456789".toList

/-- The name of the file that is drawn as the `n`-th: six characters vary. -/
def drawnName (n : Nat) : String :=
  String.ofList ("args".toList ++ (List.range 6).map fun k =>
    drawnChars.getD (n / Nat.pow 62 k % 62) 'A')

/-- Draw names until one is found that is not taken, `left` times at most. -/
def drawFile (directory : Path) : Nat → Task LaunchError Path
  | 0 => throw (.files .alreadyExists)
  | left + 1 => do
    let m ← getThe Machine
    let p := directory.join ⟨drawnName m.drawn⟩
    set { m with drawn := m.drawn + 1 }
    match m.files.create m.working p with
    | .ok (_, files) =>
      modifyThe Machine fun m => { m with files }
      return p
    | .error .alreadyExists => drawFile directory left
    | .error e => throw (.drawing e p)

/-- How many names may be drawn for one file. -/
def drawLimit : Nat := UInt16.size

/-- Keep arguments in a fresh file below the scratch directory. The file stays,
    empty if an argument cannot be written. -/
def writeResponse (scratch : Path) (arguments : List String) (compiler : Compiler) :
    Task LaunchError Path := do
  let directory := scratch.join ⟨"args"⟩
  Task.mapError .files (Task.change (makeDirectories · directory))
  let directory ← Task.absolute directory
  let p ← drawFile directory drawLimit
  match compiler.responseText? arguments with
  | none => throw .unquotable
  | some text =>
    Task.mapError .files (Task.writeFile p text.toUTF8)
    return p

/-- Run a program. What it writes goes to the log at the given place, or to the
    outputs. -/
def runProgram (log : Option Location) (program : String) (arguments : List String) :
    Task LaunchError ExitStatus := do
  if (program :: arguments).any fun w => '\x00' ∈ w.toList then throw .nulInCommand
  match ← Task.capture (log.elim .shared .log) program arguments with
  | .error e => throw (.files e)
  | .ok done =>
    Task.write done.written
    return done.status

/-- Launch an invocation and wait for its end. -/
def launch (i : Invocation) (compiler : Compiler) (context : LaunchContext) :
    Task LaunchError ExitStatus := do
  match i.command with
  | [] => throw .emptyCommand
  | program :: fixed =>
    let response ← writeResponse context.scratchDirectory i.arguments compiler
    let argument := "@" ++ response.text
    let log ←
      if context.verbose then do
        Task.say ("Running: " ++ " ".intercalate i.command ++ " " ++ argument)
        pure none
      else
        match context.logDirectory with
        | none => throw .noLogDirectory
        | some directory => some <$> Task.mapError .files (Prod.fst <$> Log.create directory)
    runProgram log program (fixed ++ [argument])

/-- Launch an invocation; a launch that fails has an outcome too. -/
def outcome {ε : Type} (i : Invocation) (compiler : Compiler) (context : LaunchContext) :
    Task ε Outcome := fun m =>
  match ((launch i compiler context).run).run m with
  | (.ok status, m) => (.ok (.ofStatus status), m)
  | (.error e, m) =>
    (.ok (.launchFailure ("Failed to launch " ++ i.program ++ " because " ++ e.message)), m)

/-- What is told about an outcome. -/
def describe (i : Invocation) : Outcome → Option String
  | .success => none
  | .partialRun (some code) => some ("! " ++ i.program ++ " exited with code " ++ toString code)
  | .partialRun none => some ("! " ++ i.program ++ " was terminated by a signal")
  | .launchFailure reason => some ("x " ++ reason)

end Launch

end CompileTree
