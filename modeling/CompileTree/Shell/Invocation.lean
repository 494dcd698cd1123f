import CompileTree.Shell.Commands

/-! # Invoking a shell

A shell runs a script that a file, an argument or its input holds. Options come
first; what follows the script are its arguments.
-/

namespace CompileTree.Shell.Invocation

open Files Script Run Text

/-- Where the script of a shell is. -/
inductive Origin where
  | file (path : String)
  | argument (text : String)
  | input
  deriving DecidableEq, Repr

/-- The variables that a shell sets by itself before it takes over those of its
    environment. -/
def preset : List Variable := [
  ⟨"PATH", some "/usr/local/sbin:/usr/local/bin:/usr/sbin:/usr/bin:/sbin:/bin", false, false⟩,
  ⟨"PS1", some "# ", false, false⟩,
  ⟨"PS2", some "> ", false, false⟩,
  ⟨"PS4", some "+ ", false, false⟩]

/-- The path of the working directory: as the environment has it if that is right. -/
def directoryOf (t : Tree) (p : Process) : String :=
  let entered := (p.valueOf? "PWD").filter fun path =>
    path.startsWith "/" &&
      ((t.entry p.working true (Process.path path)).toOption.map (·.1)) == some p.working
  entered.getD (spread (Tree.pathOf p.working).text)

/-- A shell that has run nothing yet. -/
def session (sys : System) (p : Process) (name : String) : Session :=
  let t := sys.files
  let ignoredAtStart := ((sys.standing? p.number).map (·.ignored)).getD []
  let empty : Session := {
    name, root := p.number, process := p, arguments := [], values := preset, functions := []
    aliases := []
    documents := [], nextDocument := 0, options := [], traps := [], status := 0
    substituted := 0, line := 0, reached := 0, command := none, loops := 0, calls := 0
    saved := [], jobs := [], lastJob := none, directory := directoryOf t p
    optionOffset := 0, ignored := ignoredAtStart, lost := false }
  let inherited := p.environment.filter fun (name, _) => isName name.toList
  let values := inherited.map (fun (name, value) => Variable.mk name (some value) true false) ++ [
    ⟨"IFS", some " \t\n", false, false⟩, ⟨"OPTIND", some "1", false, false⟩,
    ⟨"PPID", some (toString p.parent), false, false⟩,
    ⟨"PWD", some empty.directory, true, false⟩]
  values.foldl Session.put empty

/-- Read the options of a shell; what is left is returned, with whether the script is
    the next argument. `fuel` bounds the arguments. -/
def readOptions : Nat → Bool → List String → Run (Bool × List String)
  | 0, given, rest => return (given, rest)
  | _ + 1, given, [] => return (given, [])
  | fuel + 1, given, a :: rest => do
    match a.toList with
    | ['-', '-'] | ['-'] => return (given, rest)
    | '-' :: cs =>
      let rest ← Builtin.turnLetters true (cs.filter (· ∉ ['c', 'l'])) rest
      readOptions fuel (given || cs.contains 'c') rest
    | '+' :: cs => readOptions fuel given (← Builtin.turnLetters false cs rest)
    | _ => return (given, a :: rest)

/-- Find out where the script is, and take over its arguments. -/
def origin (arguments : List String) : Run Origin := do
  match ← readOptions (arguments.length + 1) false arguments with
  | (true, []) => fault "-c requires an argument" 2
  | (true, text :: rest) =>
    modify fun s => { s with name := rest.headD s.name, arguments := rest.drop 1 }
    return .argument text
  | (false, rest) =>
    match rest, (← get).has 's' with
    | path :: rest, false =>
      modify fun s => { s with arguments := rest }
      return .file path
    | rest, _ =>
      modify fun s => { s with arguments := rest, options := 's' :: s.options }
      return .input

/-- Run the script that an origin holds. -/
def runOrigin (e : Engine) (o : Origin) : Run Nat := do
  let p := (← get).process
  match o with
  | .argument text => e.evaluate .plain text
  | .input =>
    match p.descriptors.lookup 0 with
    | some index => e.evaluateFile index
    | none => return 0
  | .file path =>
    match ← perform (p.openFile path .read) with
    | .ok index =>
      modify fun s => { s with name := path }
      e.evaluateFile index
    | .error reason => fault ("cannot open " ++ path ++ ": " ++ Route.reason "No such file" reason) 2

/-- Run a shell as a process. The first argument is what it is called. -/
def shell (call : Process → String → List String → Act ExitStatus) (p : Process)
    (arguments : List String) : Act ExitStatus := do
  let e := Commands.engine call
  let s := session (← get) p (arguments.headD "sh")
  let whole : Run Nat := do
    let o ← origin (arguments.drop 1)
    runOrigin e o
  match ← (e.conclude whole).run.run s with
  | (.ok how, _) => return how
  | (.error (.ended how), _) => return how
  | (.error _, s) => return .exited s.status

end CompileTree.Shell.Invocation
