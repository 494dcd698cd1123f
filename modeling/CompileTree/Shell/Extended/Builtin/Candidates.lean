import CompileTree.Shell.Extended.Builtin.Declaring
import CompileTree.Shell.Extended.Builtin.Kinds
import CompileTree.Shell.Extended.Builtin.Signals

/-! # Candidates

What the start of a word may be completed to: names of some kinds, files that match a
pattern, and words that are given.
-/

namespace CompileTree.Shell.Extended.Builtin

open Files Step

/-- The kinds of names with the letters for them, in the order in which they are shown. -/
def candidateKinds : List (String × Option Char) := [
  ("alias", some 'a'), ("arrayvar", none), ("binding", none), ("builtin", some 'b'),
  ("command", some 'c'), ("directory", some 'd'), ("disabled", none), ("enabled", none),
  ("export", some 'e'), ("file", some 'f'), ("function", none), ("helptopic", none),
  ("hostname", none), ("group", some 'g'), ("job", some 'j'), ("keyword", some 'k'),
  ("running", none), ("service", some 's'), ("setopt", none), ("shopt", none),
  ("signal", none), ("stopped", none), ("user", some 'u'), ("variable", some 'v')]

/-- The words with a meaning of their own, in the order in which they are shown. -/
def keywordOrder : List String :=
  ["if", "then", "else", "elif", "fi", "case", "esac", "for", "select", "while", "until", "do",
    "done", "in", "function", "time", "\x7b", "\x7d", "!", "[[", "]]", "coproc"]

/-- The paths in the directory of a word. -/
def pathsNear (word : String) : Step (List String) := do
  let t := (← getThe System).files
  let p := (← get).process
  let name := word.toList.reverse.takeWhile (· ≠ '/')
  let directory := (word.dropEnd name.length).copy
  let names := (Shell.Pathnames.namesIn t p directory).filter fun n => n != "." && n != ".."
  return names.map (directory ++ ·)

/-- The names of the programs on the search path. -/
def programNames : Step (List String) := do
  let t := (← getThe System).files
  let p := (← get).process
  let directories := ((← searchPath).splitOn ":").map (· ++ "/")
  return directories.flatMap fun d =>
    (Shell.Pathnames.namesIn t p d).filter fun n => Calling.mayRun t p (d ++ n)

/-- The names of a kind, of which those count that start with a word. -/
def namesOfKind (word : String) (kind : String) : Step (List String) := do
  let s ← get
  let named (fits : Variable → Bool) : Step (List String) := do
    return ((← sortedVariables).filter fits).map (·.name)
  let functions : Step (List String) := do
    return (← sortedFunctions).map (·.name)
  match kind with
  | "alias" => return (s.aliases.map (·.1)).mergeSort fun a b => !(b < a)
  | "arrayvar" => named (·.content.isArray)
  | "builtin" | "helptopic" => return commandNames
  | "enabled" => return commandNames.filter (!s.disabled.contains ·)
  | "disabled" => return commandNames.filter s.disabled.contains
  | "command" => return keywordOrder ++ (← functions) ++ commandNames ++ (← programNames)
  | "export" => named (·.exported)
  | "file" => pathsNear word
  | "directory" =>
    let t := (← getThe System).files
    return (← pathsNear word).filter fun path =>
      t.isDirectory s.process.working (Process.path path)
  | "function" => functions
  | "keyword" => return keywordOrder
  | "setopt" => return optionNames.map (·.1)
  | "shopt" => return extraNames
  | "signal" =>
    return ((List.range 65).filter fun n => n ∉ [32, 33]).map providedName ++
      ["DEBUG", "ERR", "RETURN"]
  | "group" | "user" => return ["root"]
  | "hostname" => return ["localhost"]
  | "variable" => named fun _ => true
  | _ => return []

/-- The words that a text spells. -/
def wordsOf (e : Runner) (text : String) : Step (List String) := do
  match Reader.listText.run (Source.ofText 0 false (text.toList ++ [')'])) with
  | .ok (items, _) =>
    let entries ← items.mapM (Assigning.entryOf e)
    return entries.flatMap fun
      | .next texts => texts
      | .under .. => []
  | .error _ => return []

/-- The paths that a pattern finds. -/
def pathsMatching (pattern : String) : Step (List String) := do
  let s ← get
  let way : Pathnames.Way := {
    extended := s.hasExtra "extglob", fold := s.hasExtra "nocaseglob"
    hidden := s.hasExtra "dotglob", deep := s.hasExtra "globstar" }
  return Pathnames.expand (← getThe System).files s.process way (pattern.toList.map (·, false))

/-- The candidates that a filter leaves: those that do not match it, or that match what
    follows an exclamation mark. -/
def filtered (extended : Bool) (filter : Option String) (names : List String) : List String :=
  match filter.map String.toList with
  | none | some [] => names
  | some ('!' :: cs) => names.filter (accepts cs)
  | some cs => names.filter (!accepts cs ·)
where
  accepts (pattern : List Char) (name : String) : Bool :=
    (Glob.ofMarked extended (pattern.map (·, false))).accepts false name.toList

/-- Write what a word may be completed to. -/
def listCandidates : Action := fun e arguments =>
  withOptions (candidateKinds.filterMap (·.2)) ['o', 'A', 'G', 'W', 'F', 'C', 'X', 'P', 'S']
    arguments fun os rest => do
      let word := rest.headD ""
      let named := (os.filter (·.1 == 'A')).map (·.2)
      if let some unknown := named.find? fun kind => (candidateKinds.lookup kind).isNone then
        complain (unknown ++ ": invalid action name")
        return 2
      if arguments.isEmpty then return 0
      let kinds := (candidateKinds.filter fun (kind, letter) =>
        named.contains kind || letter.any (has os)).map (·.1)
      let starting (names : List String) : List String := names.filter (·.startsWith word)
      let ofKinds ← kinds.mapM (namesOfKind word)
      let paths ← match valueOf? os 'G' with
        | some pattern => pathsMatching pattern
        | none => pure []
      let words ← match valueOf? os 'W' with
        | some text => wordsOf e text
        | none => pure []
      let all := starting ofKinds.flatten ++ paths ++ starting words
      let left := filtered ((← get).hasExtra "extglob") (valueOf? os 'X') all
      let before := (valueOf? os 'P').getD ""
      let behind := (valueOf? os 'S').getD ""
      say (String.join (left.map fun name => before ++ name ++ behind ++ "\n"))
      return Conditions.statusOf (!left.isEmpty)

end CompileTree.Shell.Extended.Builtin
