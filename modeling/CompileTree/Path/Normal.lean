import CompileTree.Path

/-! # Normal form of a path text

Backslashes are read as separators, empty components and `.` are dropped, and a
name followed by `..` is folded away. What is left of a relative text starts
with the `..` that could not be folded; an absolute text never rises above its
root.
-/

namespace CompileTree.Path

/-- Fold one piece into the names read so far, the last one first. -/
def foldPiece (absolute : Bool) (stack : List (List Char)) : List Char → List (List Char)
  | [] => stack
  | ['.'] => stack
  | ['.', '.'] =>
    match stack with
    | top :: rest => if top = ['.', '.'] then if absolute then stack else ['.', '.'] :: stack else rest
    | [] => if absolute then [] else [['.', '.']]
  | piece => piece :: stack

/-- The names that remain of a text whose backslashes are already separators. -/
def foldPieces (absolute : Bool) (pieces : List (List Char)) : List (List Char) :=
  (pieces.foldl (foldPiece absolute) []).reverse

/-- The normal form of a text. -/
def normalChars (cs : List Char) : List Char :=
  let unified := cs.map fun c => if c = '\\' then '/' else c
  let absolute := unified.head? == some '/'
  let joined := ['/'].intercalate (foldPieces absolute (unified.splitOn '/'))
  if absolute then '/' :: joined
  else if joined = [] then ['.'] else joined

/-- The normal form of a text. -/
def normalText (text : String) : String := String.ofList (normalChars text.toList)

/-- The normal form of a path. -/
def normal (p : Path) : Path := ⟨normalText p.text⟩

example : normalText "src/./x/../y\\z" = "src/y/z" := by decide
example : normalText "../a/../../b" = "../../b" := by decide
example : normalText "/../a/" = "/a" := by decide
example : normalText "" = "." := by decide

end CompileTree.Path
