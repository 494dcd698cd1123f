/-! # Paths

A path is a text that is kept as it was spelled. Two paths denote the same
place, and are ordered, by their components: repeated separators, `.` after the
start and separators at the end do not count.
-/

namespace CompileTree

/-- A path as it was spelled. -/
structure Path where
  text : String
  deriving DecidableEq, Repr, Inhabited

namespace Path

/-- One step of a path. -/
inductive Component where
  /-- The root directory. -/
  | root
  /-- A leading `.`. -/
  | here
  /-- The parent directory. -/
  | up
  | name (text : String)
  deriving DecidableEq, Repr

namespace Component

/-- The root comes first, then `.`, then `..`, then the names. -/
def rank : Component → Nat
  | .root => 0
  | .here => 1
  | .up => 2
  | .name _ => 3

/-- How a component is written. -/
def label : Component → String
  | .root => "/"
  | .here => "."
  | .up => ".."
  | .name text => text

instance : Ord Component := ⟨compareLex (compareOn rank) (compareOn label)⟩

instance : Std.TransOrd Component :=
  inferInstanceAs (Std.TransCmp (compareLex (compareOn rank) (compareOn label)))

instance : Std.LawfulEqOrd Component where
  eq_of_compare {a b} h := by
    have h : compareLex (compareOn rank) (compareOn label) a b = .eq := h
    rw [compareLex_eq_eq] at h
    simp only [compareOn, Std.LawfulEqOrd.compare_eq_iff_eq] at h
    cases a <;> cases b <;> simp_all [rank, label]

/-- The component that a piece between separators stands for; none for the
    pieces that do not count. -/
def ofPiece : List Char → Option Component
  | [] => none
  | ['.'] => none
  | ['.', '.'] => some .up
  | piece => some (.name (String.ofList piece))

end Component

/-- The characters of a path. -/
def chars (p : Path) : List Char := p.text.toList

/-- A path is absolute when it starts with a separator. -/
def isAbsolute (p : Path) : Bool := p.chars.head? == some '/'

/-- The components of a text. -/
def componentsOf (cs : List Char) : List Component :=
  let steps := (cs.splitOn '/').filterMap Component.ofPiece
  match cs with
  | '/' :: _ => .root :: steps
  | ['.'] => .here :: steps
  | '.' :: '/' :: _ => .here :: steps
  | _ => steps

/-- The components that decide what a path denotes. -/
def components (p : Path) : List Component := componentsOf p.chars

/-- Whether two paths denote the same place. -/
def same (p q : Path) : Bool := p.components == q.components

instance : Ord Path := ⟨compareOn components⟩

instance : Std.TransOrd Path := inferInstanceAs (Std.TransCmp (compareOn components))

theorem compare_eq_iff {p q : Path} : compare p q = .eq ↔ p.components = q.components :=
  Std.LawfulEqOrd.compare_eq_iff_eq (a := p.components) (b := q.components)

theorem same_iff {p q : Path} : p.same q = true ↔ p.components = q.components := by
  simp [same]

/-- `q` seen from the directory `p`: an absolute `q` stays as it is, and a
    separator is added unless `p` is empty or ends with one. -/
def join (p q : Path) : Path :=
  if q.isAbsolute then q
  else if p.chars = [] || p.chars.getLast? == some '/' then ⟨p.text ++ q.text⟩
  else ⟨p.text ++ "/" ++ q.text⟩

/-- The path that a chain of names spells, one seen from the other. -/
def ofChain (chain : List String) : Path :=
  chain.foldl (fun p s => p.join ⟨s⟩) ⟨""⟩

/-- The last name of a path. -/
def fileName? (p : Path) : Option String :=
  match p.components.getLast? with
  | some (.name text) => some text
  | _ => none

/-- The directory of a path: the shortest beginning of its text that has all
    its components but the last. The root and the empty path have none. -/
def parent? (p : Path) : Option Path :=
  match p.components.getLast? with
  | none | some .root => none
  | some _ =>
    let cs := p.chars
    (List.range (cs.length + 1)).findSome? fun n =>
      if componentsOf (cs.take n) = p.components.dropLast then some ⟨String.ofList (cs.take n)⟩
      else none

/-- The directory in which the names next to a file are sought. -/
def directory (p : Path) : Path := p.parent?.getD ⟨""⟩

/-- What follows the last dot of a name, unless that dot begins the name. -/
def extensionOf (name : List Char) : Option (List Char) :=
  let after := (name.reverse.takeWhile (· ≠ '.')).reverse
  if name.length ≤ after.length + 1 then none else some after

/-- The extension of the last name of a path. -/
def extension? (p : Path) : Option (List Char) :=
  p.fileName?.bind fun name => extensionOf name.toList

/-- The components of `p` below the directory `base`, none if `p` does not lie there. -/
def below? (base p : Path) : Option (List Component) :=
  base.components.isPrefixOf? p.components

/-- How `p` is spelled from the directory `base`; none for `base` itself. -/
def relativeName? (base p : Path) : Option String :=
  match base.below? p with
  | none | some [] => none
  | some steps => some ("/".intercalate (steps.map Component.label))

/-- Drop every path that denotes a place already listed. -/
def distinct (paths : List Path) : List Path :=
  paths.foldl (fun kept p => if kept.any (·.same p) then kept else kept ++ [p]) []

end Path

end CompileTree
