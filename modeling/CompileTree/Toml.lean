/-! # TOML tables

The values of a TOML text and how its statements fill tables. A table remembers
how it came about, because that decides what may be added to it later: a table
with a header of its own is closed to dotted keys and to a second header, one
that dotted keys began is closed to headers, and an inline table is closed
altogether.
-/

namespace CompileTree

/-- How a table came about. -/
inductive Toml.Origin where
  /-- By a header of its own. -/
  | header
  /-- By the header of a table within it. -/
  | implied
  /-- By a dotted key. -/
  | dotted
  /-- As a value between braces. -/
  | inline
  deriving DecidableEq, Repr

/-- A value. -/
inductive Toml where
  | string (text : String)
  | integer (n : Int)
  /-- A number with a fraction or an exponent; all that counts is whether it is
      within the range of floats. -/
  | float (isFinite : Bool)
  | bool (b : Bool)
  | dateTime
  | array (items : List Toml)
  /-- The tables that share one doubled header, last one first. -/
  | tables (items : List (List (String × Toml)))
  | table (origin : Toml.Origin) (entries : List (String × Toml))
  deriving Repr

namespace Toml

/-- The entries of a table. -/
abbrev Entries := List (String × Toml)

/-- Whether a whole number has as many bits as may be read where no number is
    asked for. -/
def isReadableInteger (n : Int) : Bool := -(Nat.pow 2 127 : Int) ≤ n && n < (Nat.pow 2 128 : Int)

mutual

/-- Whether all numbers in a value can be read. A text may hold others, as long
    as nobody looks at them. -/
def isReadable : Toml → Bool
  | .integer n => isReadableInteger n
  | .float isFinite => isFinite
  | .array items => areReadable items
  | .tables items => areReadableTables items
  | .table _ entries => areReadableEntries entries
  | .string _ | .bool _ | .dateTime => true

/-- The same for a list of values. -/
def areReadable : List Toml → Bool
  | [] => true
  | v :: rest => isReadable v && areReadable rest

/-- The same for tables with one header. -/
def areReadableTables : List (List (String × Toml)) → Bool
  | [] => true
  | entries :: rest => areReadableEntries entries && areReadableTables rest

/-- The same for the values of a table. -/
def areReadableEntries : List (String × Toml) → Bool
  | [] => true
  | (_, v) :: rest => isReadable v && areReadableEntries rest

end

/-- Replace the value under a key, or add one. -/
def put (key : String) (value : Toml) : Entries → Entries
  | [] => [(key, value)]
  | (k, v) :: rest => if k = key then (k, value) :: rest else (k, v) :: put key value rest

/-- Change the table that a path of keys leads to, and every table on the way.
    Tables that are missing come about by the way; a path through a doubled
    header leads into its last table. -/
def descend (origin : Origin) (change : Origin → Entries → Option Entries) (here : Origin)
    (entries : Entries) : List String → Option Entries
  | [] => change here entries
  | key :: path =>
    match entries.lookup key with
    | none => do
      let inner ← descend origin change origin [] path
      return put key (.table origin inner) entries
    | some (.table .inline _) => none
    | some (.table o inner) =>
      if origin = .dotted ∧ o = .header then none
      else do
        let inner ← descend origin change o inner path
        return put key (.table o inner) entries
    | some (.tables (last :: others)) => do
      let inner ← descend origin change .header last path
      return put key (.tables (inner :: others)) entries
    | some _ => none

/-- Give the last key of a dotted path a value. The path may not lead into a
    table that has come about in another way. -/
def assign (here : Origin) (entries : Entries) (path : List String) (key : String) (value : Toml) :
    Option Entries :=
  let change (o : Origin) (inner : Entries) : Option Entries :=
    if (o == .dotted) == path.isEmpty then none
    else if (inner.lookup key).isSome then none
    else some (put key value inner)
  descend .dotted change here entries path

/-- Begin the table of a header. -/
def openTable (root : Entries) (path : List String) (key : String) : Option Entries :=
  let change (_ : Origin) (inner : Entries) : Option Entries :=
    match inner.lookup key with
    | none => some (put key (.table .header []) inner)
    | some (.table .implied entries) => some (put key (.table .header entries) inner)
    | some _ => none
  descend .implied change .header root path

/-- Begin another table of a doubled header. -/
def openItem (root : Entries) (path : List String) (key : String) : Option Entries :=
  let change (_ : Origin) (inner : Entries) : Option Entries :=
    match inner.lookup key with
    | none => some (put key (.tables [[]]) inner)
    | some (.tables items) => some (put key (.tables ([] :: items)) inner)
    | some _ => none
  descend .implied change .header root path

/-- One statement of a text. -/
inductive Statement where
  | header (path : List String) (key : String)
  | item (path : List String) (key : String)
  | assignment (path : List String) (key : String) (value : Toml)
  deriving Repr

/-- What a text has said so far: all entries, and the path of the table that
    assignments go to. -/
structure Document where
  root : Entries
  current : List String

/-- Follow one statement; none if it may not stand there. -/
def Document.follow (d : Document) : Statement → Option Document
  | .header path key => (openTable d.root path key).map (⟨·, path ++ [key]⟩)
  | .item path key => (openItem d.root path key).map (⟨·, path ++ [key]⟩)
  | .assignment path key value =>
    let change (o : Origin) (inner : Entries) : Option Entries := assign o inner path key value
    (descend .implied change .header d.root d.current).map (⟨·, d.current⟩)

/-- The entries that a list of statements describes. -/
def ofStatements (statements : List Statement) : Option Entries :=
  (statements.foldlM Document.follow ⟨[], []⟩).map (·.root)

end Toml

end CompileTree
