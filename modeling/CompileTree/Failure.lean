import CompileTree.Files.Error
import CompileTree.Path

/-! # Failures

Why a task cannot be carried out, and what was being done at the time. A failure
is told by what was being done where that is known, and else by its cause.
-/

namespace CompileTree

/-- Why a task cannot be carried out. -/
inductive Failure.Cause where
  /-- A line of a filter is neither an inclusion nor an exclusion. -/
  | badFilter (line : String)
  /-- A directory that is needed was not given under its name. -/
  | unset (name : String)
  | notADirectory (name : String) (path : Path)
  | unknownCompiler (name : String)
  | noCompiler
  /-- A word with a NUL cannot be quoted. -/
  | unquotable
  | malformedQuoting (file : String)
  | emptyCommand (file : String)
  /-- A text is no list of commands. -/
  | badCommandList
  /-- A text holds no settings. -/
  | badSettings
  | files (e : Files.Error)
  deriving DecidableEq, Repr

/-- What was being done. -/
inductive Failure.Context where
  | readingFilters
  | quoting (file : Path)
  | reading (path : Path)
  | writing (path : Path)
  | creating (path : Path)
  | parsingCommands (path : Path)
  | parsingSettings (path : Path)
  | findingRoot (path : Path)
  | readingFilterFile (path : Path)
  deriving DecidableEq, Repr

/-- A task that was not carried out. -/
structure Failure where
  cause : Failure.Cause
  context : Option Failure.Context
  deriving DecidableEq, Repr

namespace Failure

/-- How a cause is told. -/
def Cause.message : Cause → String
  | .badFilter line => "Invalid filter: " ++ line
  | .unset name => name ++ " is not set"
  | .notADirectory name path => name ++ " (" ++ path.text ++ ") is not a directory"
  | .unknownCompiler name =>
    "Unknown compiler '" ++ name ++ "' (expected 'msvc' or 'clang')"
  | .noCompiler =>
    "No suitable C++ compiler was found. " ++
      "Check your PATH variable (looked for cl, or clang and clang++)."
  | .unquotable => "cannot shell-quote string containing nul byte"
  | .malformedQuoting file => "Malformed quoting in command for " ++ file
  | .emptyCommand file => "Empty command for " ++ file
  | .badCommandList => "the text is not a list of compile commands"
  | .badSettings => "the text does not hold settings"
  | .files e => e.message

/-- How a context is told. -/
def Context.message : Context → String
  | .readingFilters => "Invalid index filters (BUILDLESS_INDEX_FILTERS)"
  | .quoting file => "Cannot quote command for " ++ file.text
  | .reading path => "Failed to read " ++ path.text
  | .writing path => "Failed to write " ++ path.text
  | .creating path => "Failed to create " ++ path.text
  | .parsingCommands path =>
    "Failed to parse " ++ path.text ++ " - expected a list of compile commands"
  | .parsingSettings path =>
    "Failed to parse " ++ path.text ++ " - check for syntax errors (missing quotes, brackets)"
  | .findingRoot path => "Source root " ++ path.text ++ " does not exist"
  | .readingFilterFile path => "Failed to read filters from " ++ path.text

/-- A failure without context. -/
def of (cause : Cause) : Failure := ⟨cause, none⟩

/-- A failure while something was being done. -/
def during (context : Context) (cause : Cause) : Failure := ⟨cause, some context⟩

/-- How a failure is told in short. -/
def message (f : Failure) : String :=
  match f.context with
  | some context => context.message
  | none => f.cause.message

/-- How a failure is told with what lies behind it. -/
def report (f : Failure) : String :=
  match f.context with
  | some context => "Error: " ++ context.message ++ "\n\nCaused by:\n    " ++ f.cause.message ++ "\n"
  | none => "Error: " ++ f.cause.message ++ "\n"

end Failure

end CompileTree
