/-! # File trees

The files of a system: what stands at every location, a location being the names
that lead to it from the root directory. The root directory is always there.
-/

/-! ## Devices

Some files hold no bytes of their own. What is written to such a device is lost,
is refused, goes to one of the two outputs or to a reader, and reading it ends at
once, never ends, or yields what was written.
-/

namespace CompileTree.Files

/-- The two outputs. -/
inductive OutputStream where
  | output
  | errors
  deriving DecidableEq, Repr

/-- What was written to the outputs, in order. -/
abbrev Written := List (OutputStream × ByteArray)

/-- A file that holds no bytes of its own. -/
inductive Device where
  /-- What is written is lost. -/
  | nothing
  /-- There is no space for what is written. -/
  | full
  /-- What is written goes to an output. -/
  | stream (s : OutputStream)
  /-- What is read are zeros, without an end. -/
  | zeros
  /-- What is read are bytes without any order, without an end. -/
  | noise
  /-- There is nothing behind it. -/
  | absent
  /-- A pipe with a name. -/
  | queue (n : Nat)
  deriving DecidableEq, Repr

/-- Whether a device takes bytes that are written to it. -/
def Device.takes (d : Device) (bytes : ByteArray) : Bool := d ≠ .full || bytes.isEmpty

/-! ## What stands at a place -/

/-- The names that lead from the root directory to a place. -/
abbrev Location := List String

/-- What stands at a place. -/
inductive Entry where
  | directory
  | file (bytes : ByteArray) (executable : Bool)
  /-- A symbolic link; its target is a path text. -/
  | link (target : String)
  | device (d : Device)

/-- Whether two entries are the same, bytes for bytes. -/
def Entry.isSame : Entry → Entry → Bool
  | .directory, .directory => true
  | .file a x, .file b y => a.data == b.data && x == y
  | .link a, .link b => a == b
  | .device a, .device b => a == b
  | _, _ => false

/-- What is kept of a place besides what stands there. -/
structure Attributes where
  /-- Who may do what, in bits, if that is not what is usual. -/
  mode : Option Nat
  /-- When it was last changed, in nanoseconds since 1970. -/
  time : Nat
  deriving DecidableEq, Repr

/-- What stands at every place. -/
structure Tree where
  entries : List (Location × Entry)
  attributes : List (Location × Attributes) := []

namespace Tree

/-- Only the root directory. -/
def empty : Tree := { entries := [] }

instance : Inhabited Tree := ⟨empty⟩

/-- What stands at a place. -/
def get? (t : Tree) (l : Location) : Option Entry :=
  if l = [] then some .directory else t.entries.lookup l

/-- Replace the entry of a place, or add one. -/
def putEntry (l : Location) (e : Entry) : List (Location × Entry) → List (Location × Entry)
  | [] => [(l, e)]
  | (k, f) :: rest => if k = l then (l, e) :: rest else (k, f) :: putEntry l e rest

/-- Let an entry stand at a place. -/
def put (t : Tree) (l : Location) (e : Entry) : Tree :=
  { t with entries := putEntry l e t.entries }

/-- Take away a place and everything below it. -/
def remove (t : Tree) (l : Location) : Tree where
  entries := t.entries.filter fun e => !l.isPrefixOf e.1
  attributes := t.attributes.filter fun a => !l.isPrefixOf a.1

/-- When files were made of which nothing else is known, in nanoseconds since 1970. -/
def startTime : Nat := 1750000000000000000

/-- What is kept of a place besides what stands there. -/
def attributesAt (t : Tree) (l : Location) : Attributes :=
  (t.attributes.lookup l).getD ⟨none, startTime⟩

/-- Change what is kept of a place besides what stands there. -/
def setAttributes (t : Tree) (l : Location) (f : Attributes → Attributes) : Tree :=
  { t with attributes := (l, f (t.attributesAt l)) :: t.attributes.filter (·.1 != l) }

/-- Who may do what at a place, in bits: a file that may be run has the bits for that. -/
def modeAt (t : Tree) (l : Location) : Nat :=
  match (t.attributesAt l).mode, t.get? l with
  | some mode, _ => mode
  | none, some (.file _ false) => 0o644
  | none, some (.link _) => 0o777
  | none, some (.device _) => 0o666
  | none, _ => 0o755

/-- Say who may do what at a place, in bits. -/
def setMode (t : Tree) (l : Location) (mode : Nat) : Tree :=
  let t := match t.get? l with
    | some (.file bytes _) => t.put l (.file bytes (mode &&& 0o111 ≠ 0))
    | _ => t
  t.setAttributes l fun a => { a with mode := some mode }

/-- The names in a directory with what stands under them. -/
def children (t : Tree) (l : Location) : List (String × Entry) :=
  t.entries.filterMap fun e =>
    match l.isPrefixOf? e.1 with
    | some [name] => some (name, e.2)
    | _ => none

theorem lookup_cons (k m : Location) (f : Entry) (rest : List (Location × Entry)) :
    ((m, f) :: rest).lookup k = if k = m then some f else rest.lookup k := by
  by_cases h : k = m
  · simp [h]
  · have hf : (k == m) = false := by simp [h]
    simp [List.lookup_cons, hf, h]

theorem lookup_putEntry (l k : Location) (e : Entry) (entries : List (Location × Entry)) :
    (putEntry l e entries).lookup k = if k = l then some e else entries.lookup k := by
  induction entries with
  | nil => simp [putEntry, lookup_cons]
  | cons f rest ih =>
    obtain ⟨m, f⟩ := f
    rw [putEntry]
    split <;> grind [lookup_cons]

/-- An entry that is put stands at its place, and no other place changes. -/
theorem get?_put (t : Tree) (l k : Location) (e : Entry) (h : l ≠ []) :
    (t.put l e).get? k = if k = l then some e else t.get? k := by
  by_cases hk : k = []
  · subst hk
    simp [get?, Ne.symm h]
  · simp [get?, put, hk, lookup_putEntry]

end Tree

end CompileTree.Files
