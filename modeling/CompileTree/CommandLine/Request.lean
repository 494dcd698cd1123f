import CompileTree.CommandLine.Grammar
import CompileTree.Settings

/-! # Requests

What a user asks for on the command line: what is to be done, where, and with
which settings. Everything that is missing has a default, except for extractors
and for what is looked up.
-/

namespace CompileTree

/-- What is to be done. -/
inductive Request where
  /-- Generate the commands for a tree. -/
  | generate (root : Path) (list : Option Path)
  /-- Run the commands of a list. -/
  | run (list : Path)
  /-- Let an extractor stand in for the compiler in the commands of a list. -/
  | extract (extractor list : Path)
  /-- Generate the commands for a tree and extract. -/
  | auto (extractor root : Path)
  /-- Find the directories from which a name names a file of a tree. -/
  | lookup (query : String) (root : Path)
  /-- List the files of a tree. -/
  | paths (root : Path)
  deriving DecidableEq, Repr

/-- All that a command line asks for. -/
structure CommandLine where
  request : Request
  /-- Where the filters stand if they are kept in a file. -/
  filterFile : Option Path
  asked : Overrides
  deriving DecidableEq, Repr

namespace CommandLine

/-! ## Options -/

def filters : OptionForm := ⟨"filters", none, .text, some "BUILDLESS_INDEX_FILTERS"⟩

def filtersFile : OptionForm := ⟨"filters-file", none, .path, none⟩

def followLinks : OptionForm := ⟨"follow-symlinks", none, .switch, some "BUILDLESS_FOLLOW_SYMLINKS"⟩

def compiler : OptionForm := ⟨"compiler", none, .text, some "BUILDLESS_COMPILER"⟩

def threads : OptionForm := ⟨"threads", some 'j', .number, some "BUILDLESS_THREADS"⟩

def verbose : OptionForm := ⟨"verbose", some 'v', .switch, some "BUILDLESS_VERBOSE"⟩

def noSystemIncludes : OptionForm :=
  ⟨"no-system-includes", none, .switch, some "BUILDLESS_NO_SYSTEM_INCLUDES"⟩

def scratchDirectory : OptionForm := ⟨"scratch-dir", none, .path, some "BUILDLESS_SCRATCH_DIR"⟩

def logDirectory : OptionForm := ⟨"log-dir", none, .path, some "BUILDLESS_LOG_DIR"⟩

def output : OptionForm := ⟨"output", some 'o', .path, none⟩

def input : OptionForm := ⟨"input", some 'i', .path, none⟩

def extractor : OptionForm := ⟨"extractor", none, .path, some "BUILDLESS_EXTRACTOR"⟩

def root : OptionForm := ⟨"root", none, .path, none⟩

/-- The options that may be given on every level. -/
def everywhere : List OptionForm :=
  [filters, filtersFile, followLinks, compiler, threads, verbose, noSystemIncludes,
    scratchDirectory, logDirectory]

/-- A level with commands on it. -/
def choice (commands : List (String × Grammar)) : Grammar := .level everywhere [] commands

/-- A level without commands. -/
def leaf (options : List OptionForm) (words : List ValueKind) : Grammar :=
  .level (everywhere ++ options) words []

/-- The command lines there are. -/
def grammar : Grammar :=
  choice [
    ("generate", leaf [output] [.path]),
    ("run", leaf [input] []),
    ("extract", leaf [extractor, input] []),
    ("auto", leaf [extractor] [.path]),
    ("index", choice [("lookup", leaf [root] [.text]), ("paths", leaf [root] [])])]

/-! ## Defaults -/

/-- The root of a tree unless another one is given. -/
def defaultRoot : Path := ⟨"."⟩

/-- Where lists of commands are kept. -/
def listName : Path := ⟨"compile_commands.json"⟩

/-! ## Reading -/

/-- What the last level asks for, after the commands of the levels. -/
def requestOf (environment : String → Option String) (commands : List String) (last : Level) :
    Option Request := do
  let path (o : OptionForm) := o.value? readPath environment [last]
  match commands, last.words with
  | ["generate"], words =>
    return .generate ((← words.head?.mapM readPath).getD defaultRoot) (← path output)
  | ["run"], _ => return .run ((← path input).getD listName)
  | ["extract"], _ => return .extract (← ← path extractor) ((← path input).getD listName)
  | ["auto"], words =>
    return .auto (← ← path extractor) ((← words.head?.mapM readPath).getD defaultRoot)
  | ["index", "lookup"], [query] => return .lookup query ((← path root).getD defaultRoot)
  | ["index", "paths"], _ => return .paths ((← path root).getD defaultRoot)
  | _, _ => none

/-- The settings that the levels ask for. -/
def overridesOf (environment : String → Option String) (levels : List Level) : Option Overrides := do
  let path (o : OptionForm) := o.value? readPath environment levels
  let text (o : OptionForm) := o.value? some environment levels
  let switch (o : OptionForm) := (o.value? readSwitch environment levels).map (·.getD false)
  return {
    filters := ← text filters
    followLinks := ← switch followLinks
    compiler := ← text compiler
    threads := ← threads.value? readNumber environment levels
    verbose := ← switch verbose
    noSystemIncludes := ← switch noSystemIncludes
    scratchDirectory := ← path scratchDirectory
    logDirectory := ← path logDirectory }

/-- The name of the program. -/
def programName : String := "buildless"

/-- What arguments ask for, with variables that stand in for some of them. -/
def ofArguments (environment : String → Option String) (arguments : List String) :
    Except Stop CommandLine := do
  let levels ← levels programName grammar arguments
  let asked : Option CommandLine := do
    return {
      request := ← requestOf environment (levels.tail.map (·.command)) (← levels.getLast?)
      filterFile := ← filtersFile.value? readPath environment levels
      asked := ← overridesOf environment levels }
  match asked with
  | some c => return c
  | none => throw .misuse

end CommandLine

end CompileTree
