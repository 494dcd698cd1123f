import CompileTree.Text.Lines

/-! # Include directives

A line of C or C++ that asks for another file. The scanner reads a text from one
line to the next and takes at most one directive from each; what stands before
the directive on its line is blanks and a hash only, what follows its closing
mark is free. The opening and the closing mark need not agree.
-/

namespace CompileTree.Include

/-- A request for a file. -/
structure Directive where
  name : String
  /-- Written with quotation marks: the file is first sought next to the
      requesting one. -/
  quoted : Bool
  deriving DecidableEq, Repr

/-- The blanks that may stand inside a directive. -/
def isGap (c : Char) : Bool := c == ' ' || c == '\t'

/-- The characters that cannot stand in the name of a directive. -/
def endsName (c : Char) : Bool := c == '"' || c == '>' || c == '\r' || c == '\n'

/-- The name and the closing mark after an opening one. -/
def afterOpener? (opener : Char) (cs : List Char) : Option Directive :=
  let body := cs.takeWhile (!endsName ·)
  match cs.dropWhile (!endsName ·) with
  | [] => none
  | closer :: _ =>
    if (opener = '"' ∨ opener = '<') ∧ body ≠ [] ∧ (closer = '"' ∨ closer = '>') then
      some ⟨String.ofList (Text.trim body), opener == '"'⟩
    else none

/-- The directive with which a text starts. -/
def directive? (cs : List Char) : Option Directive :=
  match cs.dropWhile isGap with
  | '#' :: cs =>
    match "include".toList.isPrefixOf? (cs.dropWhile isGap) with
    | none => none
    | some cs =>
      match cs.dropWhile isGap with
      | [] => none
      | opener :: cs => afterOpener? opener cs
  | _ => none

/-- The directives of a text, each sought where a line starts. -/
def scan (lineStarts : Bool) : List Char → List Directive
  | [] => []
  | c :: cs =>
    let rest := scan (c == '\n') cs
    if lineStarts then
      match directive? (c :: cs) with
      | some d => d :: rest
      | none => rest
    else rest

/-- The directives of a text in their order. -/
def directives (text : String) : List Directive := scan true text.toList

example : directives "  # include\t<a b.h>\n#include \"x/y.h> //\n//#include <z>" =
    [⟨"a b.h", false⟩, ⟨"x/y.h", true⟩] := by decide

end CompileTree.Include
