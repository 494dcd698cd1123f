import CompileTree.Path
import CompileTree.Text.NameSet

/-! # The suffix index

An index of file names that answers queries by ending. A name such as `a/b/c.h`
is stored under `c.h`, then `b`, then `a`, with a mark that says which tree it
comes from; a query walks the same way and every chain of directories below
where it stops is an answer. Names are relative: no query with a separator at
either end has an answer.
-/

namespace CompileTree

/-- Siblings in increasing order of their names. A node holds the marks of the
    names that are complete there, and the directories that may come before. -/
inductive SuffixIndex where
  | empty
  | node (name : String) (marks : List String) (inner next : SuffixIndex)
  deriving DecidableEq, Repr, Inhabited

namespace SuffixIndex

/-- A mark followed by directories, outermost first. -/
abbrev Chain := List String

/-- The pieces of a text between runs of separators, last one first. The last
    piece is empty when the text is or ends with a separator. -/
def segments (text : String) : List String :=
  match (text.toList.splitOn '/').reverse with
  | [] => []
  | last :: rest => String.ofList last :: (rest.filter (· ≠ [])).map String.ofList

/-- A single name, to be found under `names` from the last one inwards. -/
def single (mark : String) : String → List String → SuffixIndex
  | name, [] => .node name [mark] .empty .empty
  | name, n :: ns => .node name [] (single mark n ns) .empty

/-- Add a name to an index. -/
def insertSegments (mark : String) : SuffixIndex → String → List String → SuffixIndex
  | .empty, name, names => single mark name names
  | .node n marks inner next, name, names =>
    match compare name n with
    | .lt =>
      match single mark name names with
      | .node n' marks' inner' _ => .node n' marks' inner' (.node n marks inner next)
      | .empty => .node n marks inner next
    | .eq =>
      match names with
      | [] => .node n (Text.insertName mark marks) inner next
      | m :: ms => .node n marks (insertSegments mark inner m ms) next
    | .gt => .node n marks inner (insertSegments mark next name names)

/-- Add a file name of the tree with the given mark. -/
def insert (index : SuffixIndex) (file mark : String) : SuffixIndex :=
  match segments file with
  | [] => index
  | name :: names => index.insertSegments mark name names

/-- Nothing is indexed any more. -/
def clear (_index : SuffixIndex) : SuffixIndex := .empty

/-- Add several file names of one tree. -/
def insertAll (index : SuffixIndex) (files : List String) (mark : String) : SuffixIndex :=
  files.foldl (fun index file => index.insert file mark) index

/-- The number of different last names. -/
def size : SuffixIndex → Nat
  | .empty => 0
  | .node _ _ _ next => next.size + 1

/-- Whether nothing is indexed. -/
def isEmpty : SuffixIndex → Bool
  | .empty => true
  | .node .. => false

/-- Every chain of the index. -/
def chains : SuffixIndex → List Chain
  | .empty => []
  | .node name marks inner next =>
    (marks.map ([·]) ++ inner.chains).map (· ++ [name]) ++ next.chains

/-- The marks and directories under a name. -/
def find? : SuffixIndex → String → Option (List String × SuffixIndex)
  | .empty, _ => none
  | .node n marks inner next, name => if n = name then some (marks, inner) else next.find? name

/-- The chains before the given pieces, of which there is at least one. -/
def chainsBefore (index : SuffixIndex) (name : String) : List String → List Chain
  | [] =>
    match index.find? name with
    | some (marks, inner) => marks.map ([·]) ++ inner.chains
    | none => []
  | n :: ns =>
    match index.find? name with
    | some (_, inner) => inner.chainsBefore n ns
    | none => []

/-- Every chain that the query completes to an indexed name. The empty query
    completes all of them. -/
def lookup (index : SuffixIndex) (query : String) : List Chain :=
  if query = "" then index.chains
  else if query.toList.head? == some '/' || query.toList.getLast? == some '/' then []
  else
    match segments query with
    | [] => []
    | name :: names => index.chainsBefore name names

/-- The directories from which the query names an indexed file. -/
def directories (index : SuffixIndex) (query : String) : List Path :=
  (index.lookup query).map Path.ofChain

@[simp] theorem chains_empty : chains .empty = [] := rfl

@[simp] theorem size_empty : size .empty = 0 := rfl

theorem isEmpty_iff {index : SuffixIndex} : index.isEmpty = true ↔ index = .empty := by
  cases index <;> simp [isEmpty]

theorem segments_ne_nil (text : String) : segments text ≠ [] := by
  rw [segments]
  split
  · next h => simp at h
  · simp

end SuffixIndex

end CompileTree
