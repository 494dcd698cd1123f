import CompileTree.Shell.Extended.Running

/-! # Assignments

Variables get texts, and arrays get lists whose elements follow each other or stand under
keys that are given.
-/

namespace CompileTree.Shell.Extended.Assigning

open Step Values
open Calculation (Key)

/-- An element of a list whose words were expanded. -/
inductive Entry where
  | next (texts : List String)
  | under (key : String) (appends : Bool) (value : String)
  deriving DecidableEq, Repr

/-- What is assigned, with its words expanded. -/
inductive Value where
  | text (t : String)
  | list (entries : List Entry)
  deriving DecidableEq, Repr

/-- An element of a list with its words expanded. -/
def entryOf (e : Runner) : Item → Step Entry
  | .next w => return .next (← e.fields w)
  | .under key appends w => do
    let key ← Expansion.textOfParts e.outside key
    return .under key appends (← e.text w)

/-- What is assigned, with its words expanded. -/
def valueOf (e : Runner) : Given → Step Value
  | .word w => return .text (← e.text w)
  | .list items => return .list (← items.mapM (entryOf e))

/-- The value of an element: that of an expression if the variable is a number. -/
def element (v : Variable) (old : Option String) (appends : Bool) (value : String) :
    Step String := do
  if v.integer then
    let n ← calculate value
    let m ← if appends then calculate (old.getD "") else pure 0
    return toString (m + n).toInt
  else
    let text := if appends then old.getD "" ++ value else value
    return v.casing.elim text (·.keep text)

/-- Put entries into a list, each behind the one before it. -/
def intoList (v : Variable) : Nat → List (Nat × String) → List Entry → Step (List (Nat × String))
  | _, elements, [] => return elements
  | n, elements, .next texts :: rest => do
    let mut elements := elements
    let mut i := n
    for t in texts do
      elements := Content.insertAt i (← element v none false t) elements
      i := i + 1
    intoList v i elements rest
  | n, elements, .under key appends value :: rest => do
    match placeIn (.list elements) (← calculate key) with
    | none =>
      complain ("[" ++ key ++ "]=" ++ value ++ ": bad array subscript")
      intoList v n elements rest
    | some i =>
      let value ← element v (elements.lookup i) appends value
      intoList v (i + 1) (Content.insertAt i value elements) rest

/-- Keys and values that follow each other in turn. -/
def inTurn : List String → List (String × String)
  | [] => []
  | [key] => [(key, "")]
  | key :: value :: rest => (key, value) :: inTurn rest

/-- Put entries into a table. -/
def intoTable (v : Variable) :
    List (String × String) → List Entry → Step (List (String × String))
  | elements, [] => return elements
  | elements, .next texts :: rest => do
    for t in texts do
      named none (complain (v.name ++ ": " ++ t ++ ": must use subscript when assigning associative array"))
    intoTable v elements rest
  | elements, .under key appends value :: rest => do
    let value ← element v (elements.lookup key) appends value
    intoTable v (Content.insertUnder key value elements) rest

/-- The texts of entries without keys. -/
def plainTexts? (entries : List Entry) : Option (List String) :=
  (entries.mapM fun e =>
    match e with
    | Entry.next texts => some texts
    | Entry.under .. => none).map List.flatten

/-- Give a variable the elements of a list. -/
def assignList (name : String) (entries : List Entry) (appends : Bool) : Step Unit := do
  let s ← get
  let name := resolve s referenceLimit name
  let v := (s.find? name).getD (Variable.plain name .nothing)
  refuseFixed v
  match v.content with
  | .table old =>
    let start := if appends then old else []
    let entries := match entries with
      | .next _ :: _ =>
        match plainTexts? entries with
        | some texts => (inTurn texts).map fun (k, t) => Entry.under k false t
        | none => entries
      | _ => entries
    replace name (.table (← intoTable v start entries))
  | old =>
    let start := if appends then old.asList else []
    let next := if appends then old.nextIndex else 0
    replace name (.list (← intoList v next start entries))

/-- Give a variable, or the element under a key, a value. -/
def assignValue (name : String) (key : Option String) (appends : Bool) (value : Value) :
    Step Unit := do
  match value, key with
  | .text t, none => assign name none t appends
  | .text t, some key =>
    let key ← keyOf name key
    assign name (some key) t appends
  | .list entries, none => assignList name entries appends
  | .list _, some key =>
    discard (name ++ "[" ++ key ++ "]: cannot assign list to array member")

/-- The text of the key of an assignment. -/
def keyText (e : Runner) (key : Option (List Part)) : Step (Option String) :=
  match key with
  | none => return none
  | some ps => some <$> Expansion.textOfParts e.outside ps

end CompileTree.Shell.Extended.Assigning
