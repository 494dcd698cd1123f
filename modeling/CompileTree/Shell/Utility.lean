import CompileTree.Shell.Utility.Archives
import CompileTree.Shell.Utility.Blocks
import CompileTree.Shell.Utility.Calls
import CompileTree.Shell.Utility.Characters
import CompileTree.Shell.Utility.Copies
import CompileTree.Shell.Utility.Counting
import CompileTree.Shell.Utility.Dates
import CompileTree.Shell.Utility.Editor
import CompileTree.Shell.Utility.Extracts
import CompileTree.Shell.Utility.Grouping
import CompileTree.Shell.Utility.Differences
import CompileTree.Shell.Utility.Digests
import CompileTree.Shell.Utility.Dumps
import CompileTree.Shell.Utility.Evaluation
import CompileTree.Shell.Utility.Finding
import CompileTree.Shell.Utility.InputArguments
import CompileTree.Shell.Utility.Listings
import CompileTree.Shell.Utility.Matching
import CompileTree.Shell.Utility.Numbers
import CompileTree.Shell.Utility.Permuted
import CompileTree.Shell.Utility.Places
import CompileTree.Shell.Utility.Records

/-! # Utilities

The native programs by name.
-/

namespace CompileTree.Shell.Utility

open Files

/-- End with a fixed status. -/
def always (status : Nat) : Program := fun _ _ => return status

/-- The utilities that call no others. -/
def programs : List (String × Program) := [
  ("[", test), ("arch", tellMachine), ("base32", spellBytes letters32 5 5 8),
  ("base64", spellBytes letters64 6 3 4), ("basename", baseNames), ("cat", cat),
  ("chgrp", changeOwner), ("chmod", changeMode), ("chown", changeOwner), ("cksum", checkSums),
  ("cmp", cmp), ("comm", comm), ("cp", copy), ("csplit", splitByContext), ("cut", cutLines), ("date", date), ("dd", copyStream), ("diff", diff), ("dir", listFiles),
  ("dirname", directoryNames), ("du", spaceUsed), ("echo", echo), ("egrep", grepNamed .extended),
  ("expand", expand), ("expr", expr), ("factor", factor), ("false", always 1),
  ("fgrep", grepNamed .fixed), ("fold", fold), ("getopt", sortOptions), ("grep", grep),
  ("groups", tellGroups), ("gunzip", pack true false),
  ("gzip", pack false false), ("head", extract '-' Extract.head), ("hostname", tellHost),
  ("id", tellUser), ("install", install), ("join", join), ("link", addName), ("ln", link),
  ("ls", listFiles), ("mkdir", makeDirectories), ("mkfifo", makePipes), ("mktemp", makeTemporary),
  ("mv", move), ("nl", nl), ("nproc", tellProcessors), ("numfmt", numfmt), ("od", dump),
  ("paste", paste), ("pathchk", checkNames), ("printenv", printValues), ("printf", printf), ("ptx", permutedIndex),
  ("pwd", workingPath), ("readlink", readLinks), ("realpath", realPaths), ("rev", rev), ("rgrep", grepBelow),
  ("rm", remove), ("rmdir", removeDirectories), ("sed", sed), ("seq", seq), ("shuf", shuffle),
  ("sleep", sleep), ("sort", sort), ("stat", tellStatus), ("sum", blockSums),
  ("sync", settleFiles), ("tac", tac), ("tail", extract '+' Extract.tail), ("tee", tee),
  ("test", test), ("touch", touch), ("tr", translate), ("true", always 0),
  ("truncate", truncate), ("tsort", sortPairs), ("tty", tellTerminal), ("uname", tellSystem),
  ("unexpand", unexpand), ("uniq", uniq), ("unlink", removeName), ("wc", wc), ("which", which),
  ("whoami", tellUserName), ("yes", yes), ("zcat", pack true true)] ++
    digestKinds.map fun (name, k) => (name, k.program)

/-- What a utility that is called by a name tells when its output was not taken, and its
    status then. -/
def lossReport (utility name : String) (e : Error) : List String × Nat :=
  let plain := name ++ ": write error: " ++ e.text
  match utility with
  | "ls" | "grep" | "printenv" => ([plain], 2)
  | "expr" => ([plain], 3)
  | "env" => ([plain], 125)
  | "sed" =>
    let step := if e = .badDescriptor then "close" else "flush"
    ([name ++ ": couldn't " ++ step ++ " stdout: " ++ e.text], 4)
  | "sort" =>
    ([name ++ ": fflush failed: 'standard output': " ++ e.text, name ++ ": write error"], 2)
  | "tee" => ([name ++ ": 'standard output': " ++ e.text], 1)
  | "wc" => ([if e = .noSpace then name ++ ": write error" else plain], 1)
  | "awk" | "mawk" =>
    ([name ++ ": close failed on file \"/dev/stdout\" (" ++ e.text ++ ")"], 2)
  | "which" => (["/usr/bin/which: 13: printf: printf: I/O error"], 1)
  | _ => ([plain], 1)

/-- Run a utility, and tell if its output was not taken. -/
def flushed (utility name : String) (p : Process) (run : Act ExitStatus) : Act ExitStatus := do
  let status ← run
  p.flush
  match ← p.loss? with
  | none => return status
  | some e =>
    modify fun s => { s with losses := s.losses.filter (·.1 != p.number) }
    let (lines, status) := lossReport utility name e
    for line in lines do p.complain line
    return .exited status

/-- The utilities that call others. -/
def callers : List (String × CallingProgram) := [
  ("awk", treatRecords), ("env", env), ("find", find), ("flock", flock), ("mawk", treatRecords),
  ("nice", nice), ("nohup", nohup),
  ("setsid", setsid), ("split", split), ("stdbuf", stdbuf), ("tar", archive), ("timeout", timeout), ("xargs", xargs)]

end CompileTree.Shell.Utility
