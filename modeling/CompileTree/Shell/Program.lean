import CompileTree.Shell.Process

/-! # Programs

What runs when a file is run, and where a program is found. A script is run by
the interpreter that its first line names, which may be a script itself. A name
with a separator is a path; any other name is sought in the directories of a
search path, and a directory in which it may not be run only counts if no later
one has it.
-/

namespace CompileTree.Shell

open Files Text

/-- What a file is that is to be run. -/
inductive Format where
  /-- A script, with the interpreter named in its first line. -/
  | script (interpreter : String) (argument : Option String)
  /-- A program of the system itself, known by its name. -/
  | native (name : String)
  | unknown
  deriving DecidableEq, Repr

/-- The header with which native programs start. -/
def nativeHeader : List UInt8 := [
  0x7f, 0x45, 0x4c, 0x46, 0x02, 0x01, 0x01, 0x00, 0x00, 0x00, 0x00, 0x00, 0x00, 0x00, 0x00, 0x00,
  0x03, 0x00, 0x3e, 0x00, 0x01, 0x00, 0x00, 0x00, 0xc0, 0x22, 0x00, 0x00, 0x00, 0x00, 0x00, 0x00,
  0x40, 0x00, 0x00, 0x00, 0x00, 0x00, 0x00, 0x00, 0xd8, 0x83, 0x00, 0x00, 0x00, 0x00, 0x00, 0x00,
  0x00, 0x00, 0x00, 0x00, 0x40, 0x00, 0x38, 0x00, 0x0d, 0x00, 0x40, 0x00, 0x1f, 0x00, 0x1e, 0x00]

/-- A native program of the given name, which stands behind the header. -/
def nativeProgram (name : String) : Entry :=
  .file (⟨nativeHeader.toArray⟩ ++ name.toUTF8) true

namespace Format

/-- How many bytes of a file tell what it is. -/
def headSize : Nat := 256

/-- Blanks in the first line of a script. -/
def isGap (c : Char) : Bool := c == ' ' || c == '\t'

/-- The script whose first line is given, from behind its mark on. -/
def ofLine (line : List Char) : Format :=
  let ends (c : Char) : Bool := isGap c || c == '\x00'
  let line := line.dropWhile isGap
  let interpreter := line.takeWhile (!ends ·)
  let argument := match line.dropWhile (!ends ·) with
    | ' ' :: rest | '\t' :: rest =>
      some (String.ofList ((rest.dropWhile isGap).takeWhile (· ≠ '\x00')))
    | _ => none
  .script (String.ofList interpreter) argument

/-- The name of a native program, if bytes are one. -/
def nativeName? (bytes : ByteArray) : Option String :=
  if (bytes.extract 0 nativeHeader.length).toList = nativeHeader then
    String.fromUTF8? (bytes.extract nativeHeader.length bytes.size)
  else none

/-- What bytes are. The first line of a script counts up to its end, without
    blanks there. If it does not end within the head, the interpreter has to. -/
def ofBytes (bytes : ByteArray) : Format :=
  match (Text.ofBytes (bytes.extract 0 headSize)).toList with
  | '#' :: '!' :: cs =>
    let line := cs.takeWhile (· ≠ '\n')
    if line.length < cs.length then
      let line := (line.reverse.dropWhile isGap).reverse
      if line.all isGap then .unknown else ofLine line
    else
      let line := cs.take (headSize - 3)
      let padded := if bytes.size < headSize then line ++ ['\x00'] else line
      let start := padded.dropWhile isGap
      if start.any fun c => isGap c || c == '\x00' then ofLine line else .unknown
  | _ => (nativeName? bytes).elim .unknown .native

end Format

/-- The bytes of the program that a path leads to. -/
def programAt (t : Tree) (working : Location) (path : String) : Except Error ByteArray := do
  match (← t.entry working true (Process.path path)).2 with
  | .file bytes true => return bytes
  | _ => throw .permissionDenied

/-- How many scripts may stand between a file that is run and a native program. -/
def scriptLimit : Nat := 5

/-- The native program that runs when a file is run, with its arguments, of which the
    first one is its own name; `scripts` more scripts may come in between. -/
def runnerWithin (t : Tree) (working : Location) :
    Nat → String → List String → Except Error (String × List String)
  | scripts, path, arguments => do
    match Format.ofBytes (← programAt t working path) with
    | .unknown => throw .badFormat
    | .native name => return (name, arguments)
    | .script interpreter argument =>
      if interpreter = "" then throw .permissionDenied
      let arguments := interpreter :: argument.toList ++ path :: arguments.drop 1
      match scripts with
      | scripts + 1 => runnerWithin t working scripts interpreter arguments
      | 0 =>
        let _ ← programAt t working interpreter
        throw .tooManyLinks

/-- The longest argument in bytes. -/
def argumentLimit : Nat := 131071

/-- How many bytes arguments and variables may have together. -/
def totalLimit : Nat := 2097152

/-- Whether a program may be called with some arguments and variables. -/
def fits (arguments : List String) (environment : List (String × String)) : Bool :=
  let sizes := arguments.map (·.length) ++ environment.map fun v => v.1.length + 1 + v.2.length
  sizes.all (· ≤ argumentLimit) && (sizes.map (· + 9)).foldl (· + ·) 0 ≤ totalLimit

/-- The native program that runs when a process runs a file, with its arguments. -/
def runner (t : Tree) (p : Process) (path : String) (arguments : List String) :
    Except Error (String × List String) := do
  let found ← runnerWithin t p.working scriptLimit path arguments
  if fits found.2 p.environment then return found else throw .tooManyArguments

/-- The directories of a search path. -/
def searchDirectories (searchPath : String) : List Path :=
  (searchPath.toList.splitOn ':').map fun cs => ⟨String.ofList cs⟩

/-- The directories in which a program is sought. In place of one whose path is too long the
    working directory is searched, unless it is the last one. -/
def soughtDirectories (searchPath : String) : List Path :=
  let directories := searchDirectories searchPath
  let isLong (d : Path) : Bool := pathLimit < d.text.length
  let kept := if directories.getLast?.any isLong then directories.dropLast else directories
  kept.map fun d => if isLong d then ⟨""⟩ else d

/-- Where programs are sought if no search path is set. -/
def standardPath : String := "/bin:/usr/bin"

/-- What the files of a name run in the first directory where there is something
    to run; `denied` tells whether one was already found that may not be run. -/
def searchRunner (run : String → Except Error (String × List String)) (name : String)
    (denied : Bool) : List Path → Except Error (String × List String)
  | [] => .error (if denied then .permissionDenied else .notFound)
  | directory :: rest =>
    match run (directory.join ⟨name⟩).text with
    | .ok found => .ok found
    | .error .permissionDenied => searchRunner run name true rest
    | .error .notFound => searchRunner run name denied rest
    | .error .notADirectory => searchRunner run name denied rest
    | .error e => .error e

/-- The native program that runs when a program is called by a name, with its
    arguments, of which the first one is that name. -/
def findRunner (t : Tree) (p : Process) (name : String) (arguments : List String) :
    Except Error (String × List String) :=
  let run (path : String) := runner t p path (name :: arguments)
  if name = "" then .error .notFound
  else if '/' ∈ name.toList then run name
  else if nameLimit < name.length then .error .nameTooLong
  else searchRunner run name false (soughtDirectories ((p.valueOf? "PATH").getD standardPath))

example : Format.ofBytes "#! /bin/sh -e \necho".toUTF8 = .script "/bin/sh" (some "-e") := by
  decide +kernel

example : Format.ofBytes "#!\necho".toUTF8 = .unknown := by decide +kernel

end CompileTree.Shell
