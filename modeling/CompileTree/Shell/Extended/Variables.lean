import CompileTree.Shell.Extended.Syntax

/-! # Variables of the extended shell

A variable holds a text, a list whose elements have numbers, or a table whose elements
have keys. Variables stand in scopes: those of the shell, those of functions that are
being run, and those that are set for one command.
-/

namespace CompileTree.Shell.Extended

/-- What a variable holds. -/
inductive Content where
  | nothing
  | text (value : String)
  /-- Elements in the order of their numbers. -/
  | list (elements : List (Nat × String))
  /-- Elements, the last one that was added first. -/
  | table (elements : List (String × String))
  deriving DecidableEq, Repr

/-- A variable. -/
structure Variable where
  name : String
  content : Content
  exported : Bool
  fixed : Bool
  /-- Whether what is assigned is an expression. -/
  integer : Bool
  /-- Whether it stands for the variable whose name it holds. -/
  reference : Bool
  /-- How letters are changed that are assigned. -/
  casing : Option Casing
  /-- Whether it is an array to which nothing was ever assigned. -/
  bare : Bool
  deriving DecidableEq, Repr

namespace Content

/-- The hash of a text by which tables are ordered. -/
def hash (text : String) : Nat :=
  let byte (c : Char) : UInt32 := if c.toNat < 128 then c.toNat.toUInt32 else c.toNat.toUInt32 ||| 0xffffff00
  (text.toList.foldl (fun (h : UInt32) c => (h * 16777619) ^^^ byte c) 2166136261).toNat

/-- How many groups the elements of a table are divided into. -/
def groups : Nat := 1024

/-- Named things in the order of tables with so many groups; those that were added last come
    first in their group. -/
def ordered {α : Type} (groups : Nat) (nameOf : α → String) (all : List α) : List α :=
  all.mergeSort fun a b => hash (nameOf a) % groups ≤ hash (nameOf b) % groups

/-- Put an element into a list. -/
def insertAt (n : Nat) (value : String) : List (Nat × String) → List (Nat × String)
  | [] => [(n, value)]
  | (k, v) :: rest =>
    if k < n then (k, v) :: insertAt n value rest
    else if k = n then (n, value) :: rest
    else (n, value) :: (k, v) :: rest

/-- Put an element into a table. -/
def insertUnder (key value : String) (all : List (String × String)) : List (String × String) :=
  if all.any (·.1 == key) then all.map fun e => if e.1 = key then (key, value) else e
  else (key, value) :: all

/-- The elements of a list; a text is its first element. -/
def asList : Content → List (Nat × String)
  | nothing => []
  | text value => [(0, value)]
  | list elements => elements
  | table _ => []

/-- The values in order. -/
def values : Content → List String
  | nothing => []
  | text value => [value]
  | list elements => elements.map (·.2)
  | table elements => (ordered groups (·.1) elements).map (·.2)

/-- The numbers or keys in order. -/
def keys : Content → List String
  | nothing => []
  | text _ => ["0"]
  | list elements => elements.map (toString ·.1)
  | table elements => (ordered groups (·.1) elements).map (·.1)

/-- The value that a name alone stands for. -/
def value? : Content → Option String
  | nothing => none
  | text value => some value
  | list elements => elements.lookup 0
  | table elements => elements.lookup "0"

/-- Whether it has elements. -/
def isArray : Content → Bool
  | list _ | table _ => true
  | _ => false

/-- The number behind the last element of a list. -/
def nextIndex (c : Content) : Nat := ((c.asList.getLast?).map (·.1 + 1)).getD 0

end Content

/-- A variable of a name that was not declared. -/
def Variable.plain (name : String) (content : Content) : Variable :=
  ⟨name, content, false, false, false, false, none, false⟩

/-- The letters of the properties of a variable. -/
def Variable.letters (v : Variable) : String :=
  let letter (yes : Bool) (c : Char) : List Char := if yes then [c] else []
  let (isList, isTable) := match v.content with
    | .list _ => (true, false)
    | .table _ => (false, true)
    | _ => (false, false)
  String.ofList (letter isList 'a' ++ letter isTable 'A' ++ letter v.integer 'i' ++
    letter v.reference 'n' ++ letter v.fixed 'r' ++ letter v.exported 'x' ++
    letter (v.casing == some .toggled) 'c' ++ letter (v.casing == some .lower) 'l' ++
    letter (v.casing == some .upper) 'u')

/-- What variables belong to. -/
inductive ScopeKind where
  | shell
  | function
  /-- A command. -/
  | command
  deriving DecidableEq, Repr

/-- Variables that belong together, the last one that was added first. -/
structure Scope where
  kind : ScopeKind
  held : List Variable
  deriving Repr

namespace Scope

/-- The variable of a name. -/
def find? (s : Scope) (name : String) : Option Variable := s.held.find? (·.name == name)

/-- Replace a variable, or add one. -/
def put (s : Scope) (v : Variable) : Scope :=
  if (s.find? v.name).isSome then
    { s with held := s.held.map fun w => if w.name = v.name then v else w }
  else { s with held := v :: s.held }

/-- Take a variable away. -/
def drop (s : Scope) (name : String) : Scope :=
  { s with held := s.held.filter (·.name != name) }

end Scope

/-- Change the first letter of a text, or all letters. -/
def Casing.change (how : Casing) (c : Char) : Char :=
  match how with
  | .upper => c.toUpper
  | .lower => c.toLower
  | .toggled => if c.isUpper then c.toLower else c.toUpper

/-- A text as a variable keeps it that changes letters. -/
def Casing.keep (how : Casing) (text : String) : String :=
  match how with
  | .upper => text.toUpper
  | .lower => text.toLower
  | .toggled =>
    match text.toList with
    | [] => ""
    | c :: cs => String.ofList (c.toUpper :: cs.map Char.toLower)

end CompileTree.Shell.Extended
