import CompileTree.Path
import CompileTree.Toml.Reader

/-! # Stored settings

The settings that a tree keeps in a TOML file at its root, in three sections
that may be left out, as may every setting in them. A section is a table, an
array of all its settings in order, or a date, which stands for a section that
gives none of them. Keys that are not known do not count, as long as the numbers
below them can be read, but settings of a wrong kind do.
-/

namespace CompileTree

/-- Which files are indexed. -/
structure IndexSection where
  filters : Option String
  followLinks : Option Bool
  deriving DecidableEq, Repr

/-- Which compiler is used, and whether its own search directories are read. -/
structure CompilerSection where
  preferred : Option String
  systemIncludes : Option Bool
  deriving DecidableEq, Repr

/-- How commands are run. -/
structure RunSection where
  threads : Option Nat
  verbose : Option Bool
  scratchDirectory : Option Path
  logDirectory : Option Path
  deriving DecidableEq, Repr

/-- The settings of a tree. -/
structure StoredSettings where
  index : Option IndexSection
  compiler : Option CompilerSection
  run : Option RunSection
  deriving DecidableEq, Repr

namespace StoredSettings

/-- A tree without settings. -/
def none : StoredSettings := ⟨.none, .none, .none⟩

/-- Where settings are kept, seen from the root of the tree. -/
def fileName : String := "buildless.toml"

/-- The settings of a section under their keys, as far as they are given. None
    if the value is no section. -/
def fields? (keys : List String) : Toml → Option (List (Option Toml))
  | .table _ entries =>
    if Toml.areReadableEntries entries then some (keys.map fun key => entries.lookup key)
    else .none
  | .tables items =>
    if items.length < keys.length then .none
    else some ((items.reverse.take keys.length).map fun entries => some (.table .header entries))
  | .array items =>
    if items.length < keys.length then .none else some ((items.take keys.length).map some)
  | .dateTime => some (keys.map fun _ => .none)
  | _ => .none

/-- Read a setting that may be left out. -/
def setting {α : Type} (read : Toml → Option α) : Option Toml → Option (Option α)
  | .none => some .none
  | some v => (read v).map some

/-- A text. -/
def text? : Toml → Option String
  | .string text => some text
  | _ => .none

/-- A truth value. -/
def flag? : Toml → Option Bool
  | .bool b => some b
  | _ => .none

/-- A number that fits into 64 bits. -/
def count? : Toml → Option Nat
  | .integer n => if 0 ≤ n ∧ n < UInt64.size then some n.toNat else .none
  | _ => .none

/-- The section on indexing. -/
def index? (v : Toml) : Option IndexSection := do
  match ← fields? ["filters", "follow_symlinks"] v with
  | [filters, followLinks] =>
    return { filters := ← setting text? filters, followLinks := ← setting flag? followLinks }
  | _ => .none

/-- The section on the compiler. -/
def compiler? (v : Toml) : Option CompilerSection := do
  match ← fields? ["prefer", "system_includes"] v with
  | [preferred, systemIncludes] =>
    return { preferred := ← setting text? preferred
             systemIncludes := ← setting flag? systemIncludes }
  | _ => .none

/-- The section on running commands. -/
def run? (v : Toml) : Option RunSection := do
  match ← fields? ["threads", "verbose", "scratch_dir", "log_dir"] v with
  | [threads, verbose, scratch, log] =>
    return { threads := ← setting count? threads
             verbose := ← setting flag? verbose
             scratchDirectory := (← setting text? scratch).map Path.mk
             logDirectory := (← setting text? log).map Path.mk }
  | _ => .none

/-- The settings that a text describes. -/
def ofText? (text : String) : Option StoredSettings := do
  let entries ← Toml.ofText? text
  let others := entries.filter fun e => !(e.1 ∈ ["index", "compiler", "run"])
  if !Toml.areReadableEntries others then failure
  return { index := ← setting index? (entries.lookup "index")
           compiler := ← setting compiler? (entries.lookup "compiler")
           run := ← setting run? (entries.lookup "run") }

end StoredSettings

end CompileTree
