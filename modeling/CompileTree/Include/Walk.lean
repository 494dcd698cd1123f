import CompileTree.Include.Directive
import CompileTree.Path.Normal
import CompileTree.Path.Table
import CompileTree.SuffixIndex

/-! # The include walk

From a source the walk follows every directive it can: a quoted one to the file
next to the requesting file, if there is one, and every other one to all the
files of the tree whose name ends as asked. The names of the latter are what a
search directory has to be found for. Files are expanded in the order in which
they are first asked for, each of them once: an expanded file leaves the table
of files still to be read.
-/

namespace CompileTree.Include

/-- The directives of every file that was read. -/
abbrev DirectiveTable := Path.Table (List Directive)

/-- Where a quoted directive is sought first. -/
def sibling (directory : Path) (name : String) : Path := (directory.join ⟨name⟩).normal

/-- The files that one directive leads to, and its name if that needs a search
    directory. -/
def follow (isFile : Path → Bool) (index : SuffixIndex) (directory : Path) (d : Directive) :
    List Path × Option String :=
  if d.quoted && isFile (sibling directory d.name) then ([sibling directory d.name], none)
  else ((index.directories d.name).map (sibling · d.name), some d.name)

/-- The names of a list with another one, unless it is there already. -/
def addName (names : List String) : Option String → List String
  | some name => if name ∈ names then names else names ++ [name]
  | none => names

/-- Split the entry of a place off a list of entries. -/
def pull? {α : Type} (p : Path) : List (Path × α) → Option ((Path × α) × List (Path × α))
  | [] => none
  | e :: rest =>
    if e.1.same p then some (e, rest)
    else (pull? p rest).map fun found => (found.1, e :: found.2)

theorem length_pull {α : Type} {p : Path} {entries rest : List (Path × α)} {e : Path × α}
    (h : pull? p entries = some (e, rest)) : entries.length = rest.length + 1 := by
  induction entries generalizing rest with
  | nil => cases h
  | cons f fs ih =>
    rw [pull?] at h
    split at h
    · cases h; rfl
    · obtain ⟨⟨g, gs⟩, hg, hfound⟩ := Option.map_eq_some_iff.1 h
      cases hfound
      simp [ih hg]

/-- Expand the files of a queue; `unread` holds the files that were not expanded
    yet and `names` the names found so far. -/
def walk (isFile : Path → Bool) (index : SuffixIndex) (unread : List (Path × List Directive))
    (names : List String) : List Path → List String
  | [] => names
  | file :: queue =>
    match _h : pull? file unread with
    | none => walk isFile index unread names queue
    | some ((_, directives), rest) =>
      let steps := directives.map (follow isFile index file.directory)
      walk isFile index rest (steps.foldl (fun names s => addName names s.2) names)
        (queue ++ steps.flatMap (·.1))
termination_by queue => (unread.length, queue.length)
decreasing_by
  · exact .right _ (Nat.lt_succ_self _)
  · exact .left _ _ (by have := length_pull _h; omega)

/-- The names for which a source needs search directories, in the order in which
    they are met. -/
def unresolved (isFile : Path → Bool) (index : SuffixIndex) (table : DirectiveTable)
    (source : Path) : List String :=
  walk isFile index table.entries [] [source]

end CompileTree.Include
