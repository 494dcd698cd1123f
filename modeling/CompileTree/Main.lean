import CompileTree.CommandLine
import CompileTree.Files.Listing
import CompileTree.Text.Lines

/-! # The program

The files to work on are listed on the standard input, relative to the working
directory or not. They are read before the request is carried out, and what it
makes or changes is written back when it is done.
-/

namespace CompileTree.Program

open Files

/-- The variables that requests depend on. -/
def variableNames : List String :=
  ["PATH", "INCLUDE"] ++ (CommandLine.extractor :: CommandLine.everywhere).filterMap (·.variableName)

/-- The values of the variables that are set. -/
def environment : IO (List (String × String)) :=
  variableNames.filterMapM fun name => do
    return (← IO.getEnv name).map (name, ·)

/-- The lines of a stream. -/
partial def lines (input : IO.FS.Stream) (read : String) : IO (List (List Char)) := do
  let line ← input.getLine
  if line.isEmpty then return Text.lines read.toList
  lines input (read ++ line)

/-- Add a listed file with its bytes to a tree. -/
def load (working : Location) (t : Tree) (f : Listed) : IO Tree := do
  let bytes ← match f.kind with
    | .file _ => IO.FS.readBinFile f.path
    | _ => pure ByteArray.empty
  return t.putDeep (f.location working) (f.entry bytes)

/-- The machine with the files that are listed. -/
def machine (working : Location) (listing : List Listed) : IO Machine := do
  let process ← IO.rand 2 4194304
  let t := Shell.nativeTree.putDeep working .directory
  let loaded ← listing.foldlM (load working) t
  return {
    files := Shell.seenAlone loaded process "compiletree" working
    working
    environment := ← environment
    clock := ← IO.monoNanosNow
    process
    drawn := ← IO.rand 0 (Nat.pow 62 6)
    written := [] }

/-- Write to the outputs. -/
def print (written : Written) : IO Unit := do
  for (stream, bytes) in written do
    let output ← match stream with
      | .output => IO.getStdout
      | .errors => IO.getStderr
    output.write bytes
    output.flush

/-- Write one changed file back. -/
def writeBack (change : Location × Entry) : IO Unit :=
  let path := (Tree.pathOf change.1).text
  match change.2 with
  | .directory => IO.FS.createDirAll path
  | .file bytes _ => IO.FS.writeBinFile path bytes
  | .link _ | .device _ => pure ()

/-- Carry out what the arguments ask for. -/
def run (arguments : List String) : IO UInt32 := do
  let working := names ((← IO.getEnv "PWD").getD "/")
  let listing ← lines (← IO.getStdin) ""
  let before ← machine working (listing.filterMap Listed.ofLine?)
  let (code, after) := (CommandLine.run arguments).run before
  (after.files.changesSince before.files).forM writeBack
  print after.written
  return code.toUInt32

end CompileTree.Program

/-- The program. -/
def main (arguments : List String) : IO UInt32 := CompileTree.Program.run arguments
