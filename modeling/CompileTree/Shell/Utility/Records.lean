import CompileTree.Shell.Records.Evaluation

/-! # Treating records

The utility that runs programs that treat records: its options, the text of the program
and the variables that are there from the start.
-/

namespace CompileTree.Shell.Utility

open Records

/-- What was given to the utility. -/
structure RecordOptions where
  /-- The files that hold the program. -/
  files : List String
  /-- How fields are set apart. -/
  separator : Option String
  /-- The variables that have values from the start. -/
  values : List (String × String)
  /-- What is told without any effect. -/
  notes : List String
  /-- What is to be shown in place of running a program. -/
  shows : Option Char
  operands : List String

/-- Set options apart, or tell what is wrong; `fuel` bounds their number. -/
def recordOptions : Nat → RecordOptions → List String → Except String RecordOptions
  | 0, o, rest => .ok { o with operands := rest }
  | _, o, [] => .ok o
  | fuel + 1, o, argument :: rest =>
    match argument.toList with
    | ['-', '-'] => .ok { o with operands := rest }
    | ['-'] => .ok { o with operands := argument :: rest }
    | '-' :: letter :: joined =>
      if argument = "--version" then .ok { o with shows := some 'v' }
      else if argument = "--help" ∨ argument = "--usage" then .ok { o with shows := some 'u' }
      else if letter ∈ ['F', 'v', 'f', 'W'] then
        let found? := match joined, rest with
          | [], value :: rest => some (value, rest)
          | [], [] => none
          | cs, rest => some (String.ofList cs, rest)
        match found? with
        | none => .error ("option -" ++ String.singleton letter ++ " lacks argument")
        | some (value, rest) =>
          match letter with
          | 'F' => recordOptions fuel { o with separator := some value } rest
          | 'f' => recordOptions fuel { o with files := o.files ++ [value] } rest
          | 'v' =>
            match Work.assignment? value with
            | some (n, v) => recordOptions fuel { o with values := o.values ++ [(n, v)] } rest
            | none => .error ("improper assignment: -v " ++ value)
          | _ =>
            if value ≠ "" ∧ "version".startsWith value then .ok { o with shows := some 'v' }
            else if value ≠ "" ∧ ("usage".startsWith value ∨ "help".startsWith value) then
              .ok { o with shows := some 'u' }
            else if value ≠ "" ∧ ("interactive".startsWith value ∨ value.startsWith "random=" ∨
                value.startsWith "sprintf=" ∨ value = "posix_space") then
              recordOptions fuel o rest
            else
              let note := "vacuous option: -W \"" ++ value ++ "\""
              recordOptions fuel { o with notes := o.notes ++ [note] } rest
      else .error ("not an option: " ++ argument)
    | _ => .ok { o with operands := argument :: rest }

/-- How the utility is used. -/
def recordUsage : String :=
  "Usage: mawk [Options] [Program] [file ...]\n\nProgram:\n" ++
  "    The -f option value is the name of a file containing program text.\n" ++
  "    If no -f option is given, a \"--\" ends option processing; the following\n" ++
  "    parameters are the program text.\n\nOptions:\n" ++
  "    -f program-file  Program  text is read from file instead of from the\n" ++
  "                     command-line.  Multiple -f options are accepted.\n" ++
  "    -F value         sets the field separator, FS, to value.\n" ++
  "    -v var=value     assigns value to program variable var.\n" ++
  "    --               unambiguous end of options.\n\n" ++
  "    Implementation-specific options are prefixed with \"-W\".  They can be\n" ++
  "    abbreviated:\n\n" ++
  "    -W version       show version information and exit.\n" ++
  "    -W dump          show assembler-like listing of program and exit.\n" ++
  "    -W help          show this message and exit.\n" ++
  "    -W interactive   set unbuffered output, line-buffered input.\n" ++
  "    -W exec file     use file as program as well as last option.\n" ++
  "    -W random=number set initial random seed.\n" ++
  "    -W sprintf=number adjust size of sprintf buffer.\n" ++
  "    -W posix_space   do not consider \"\\n\" a space.\n" ++
  "    -W usage         show this message and exit.\n"

/-- Which utility it is. -/
def recordVersion : String :=
  "mawk 1.3.4 20200120\n\n" ++
  "random-funcs:       srandom/random\nregex-funcs:        internal\n" ++
  "compiled limits:\nsprintf buffer      8192\nmaximum-integer     2147483647\n"

/-- The parts of the program: the files that hold it, or the first operand. -/
def programParts (p : Process) : List String → Act (Except String (List (String × List Char)))
  | [] => return .ok []
  | file :: rest => do
    match ← if file = "/dev/stdin" then p.read 0 none else content p file with
    | .error e => return .error ("cannot open " ++ file ++ " (" ++ e.text ++ ")")
    | .ok text =>
      match ← programParts p rest with
      | .error e => return .error e
      | .ok parts =>
        let cs := text.toList
        let cs := if cs.getLast?.all (· == '\n') then cs else cs ++ ['\n']
        return .ok ((file ++ ": ", cs) :: parts)

/-- What a program has when it starts. -/
def startState (p : Process) (name : String) (o : RecordOptions) (operands : List String)
    (now : Int) : Records.State :=
  let arguments := (name :: operands).zipIdx.foldl (fun (t : Table) (a, i) =>
    t.set (.number i) (.given a)) Table.empty
  let environment := p.environment.foldl (fun (t : Table) (n, v) => t.set (.text n) (.given v)) .empty
  let texts : List (String × Value) := [
    ("FS", .text " "), ("OFS", .text " "), ("ORS", .text "\n"), ("RS", .text "\n"),
    ("SUBSEP", .text "\x1c"), ("CONVFMT", .text "%.6g"), ("OFMT", .text "%.6g"),
    ("NR", .ofNat 0), ("FNR", .ofNat 0), ("NF", .ofNat 0), ("FILENAME", .text ""),
    ("RSTART", .ofNat 0), ("RLENGTH", .number (-1.0)), ("ARGC", .ofNat (operands.length + 1))]
  let given := o.values.map fun (n, v) => (n, Value.given v)
  let separator := (o.separator.toList).map fun s =>
    ("FS", Value.given (String.ofList (unescaped s.toList)))
  let globals := (texts ++ separator ++ given).foldl (fun m (n, v) => m.insert n (Cell.value v))
    (∅ : Std.HashMap String Cell)
  let globals := (globals.insert "ARGV" (.array 0)).insert "ENVIRON" (.array 1)
  let seed := now / 1000000000
  { process := p, name, globals, locals := [], tables := #[arguments, environment]
    record := .text "", fields := #[], isSplit := true, isJoined := true, main := none
    argument := 1, hasFile := false, isOver := false, streams := [], patterns := ∅, ranges := []
    status := 0, random := startRandom (seed % 4294967296).toNat.toUInt32, seed := .ofInt seed }

/-- Run a program that treats records. -/
def treatRecords : CallingProgram := fun call p arguments => do
  let name := (((arguments.headD "").splitOn "/").getLast?).getD ""
  match recordOptions (arguments.length + 1) ⟨[], none, [], [], none, []⟩ (arguments.drop 1) with
  | .error text =>
    complain p name text
    return .exited 2
  | .ok o =>
    match o.shows with
    | some 'v' =>
      p.say recordVersion
      return .exited 0
    | some _ =>
      p.say recordUsage
      return .exited 0
    | none =>
      for note in o.notes do complain p name note
      let parts ← match o.files, o.operands with
        | [], [] => pure none
        | [], text :: _ => pure (some (.ok [("", text.toList ++ ['\n'])]))
        | files, _ => do pure (some (← programParts p files))
      match parts with
      | none =>
        let _ ← p.write 2 recordUsage
        return .exited 2
      | some (.error text) =>
        complain p name text
        return .exited 2
      | some (.ok parts) =>
        let separatorFault? : Option String := match (o.separator.map String.toList).map unescaped with
          | some (a :: b :: cs) =>
            match PatternSpelling.read (a :: b :: cs) with
            | .error e => some ("line 0: regular expression compile failed (" ++ e ++ ")\n" ++
                String.ofList (a :: b :: cs))
            | .ok _ => none
          | _ => none
        if let some fault := separatorFault? then
          complain p name fault
          return .exited 2
        match Records.Program.read parts with
        | .error faults =>
          for fault in faults do complain p name fault
          return .exited 2
        | .ok program =>
          let operands := if o.files.isEmpty then o.operands.drop 1 else o.operands
          let start := startState p name o operands (← presentTime)
          let (_, s) ← ((program.run call).run).run start
          return .exited s.status

end CompileTree.Shell.Utility
