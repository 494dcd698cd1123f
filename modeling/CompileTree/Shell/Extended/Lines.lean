import CompileTree.Shell.Extended.Syntax

/-! # Lines of commands within words

A command within a word is run from a text in which every part of it stands in a fixed
place, however it was written. Its lines are counted in that text, from zero on.
-/

namespace CompileTree.Shell.Extended

/-- How many lines end in spellings. -/
def lineEnds (spellings : List String) : Nat :=
  (spellings.map fun t => (t.toList.filter (· == '\n')).length).foldl (· + ·) 0

/-- The spelling of an argument. -/
def Argument.spelling : Argument → String
  | .word w => w.spelling
  | .assignment (.of spelling ..) => spelling

mutual

/-- A command that starts on a line, with its lines counted from there, and the line on
    which it ends. -/
def Statement.from_ (l : Nat) : Statement → Statement × Nat
  | .nothing => (.nothing, l)
  | .simple _ assignments arguments redirections =>
    let spellings := (assignments.map fun (.of spelling ..) => spelling) ++
      arguments.map Argument.spelling
    (.simple l assignments arguments redirections, l + lineEnds spellings)
  | .pipeline cs =>
    let (cs, l) := Statement.allFrom l cs
    (.pipeline cs, l)
  | .negated c =>
    let (c, l) := c.from_ l
    (.negated c, l)
  | .timed brief c =>
    let (c, l) := c.from_ l
    (.timed brief c, l)
  | .sequence apart a b =>
    let (a, l) := a.from_ l
    let (b, l) := b.from_ (if apart then l + 1 else l)
    (.sequence apart a b, l)
  | .both a b =>
    let (a, l) := a.from_ l
    let (b, l) := b.from_ l
    (.both a b, l)
  | .either a b =>
    let (a, l) := a.from_ l
    let (b, l) := b.from_ l
    (.either a b, l)
  | .background c =>
    let (c, l) := c.from_ l
    (.background c, l)
  | .partner name c =>
    let (c, l) := c.from_ l
    (.partner name c, l)
  | .branch test yes no =>
    let (test, l) := test.from_ l
    let (yes, l) := yes.from_ (l + 1)
    match no with
    | none => (.branch test yes none, l + 1)
    | some no =>
      let (no, l) := no.from_ (l + 2)
      (.branch test yes (some no), l + 1)
  | .loop whileFailing test body =>
    let (test, l) := test.from_ l
    let (body, l) := body.from_ (l + 1)
    (.loop whileFailing test body, l + 1)
  | .each _ name items body =>
    let (body, end_) := body.from_ (l + 2)
    (.each l name items body, end_ + 1)
  | .menu _ name items body =>
    let (body, end_) := body.from_ (l + 2)
    (.menu l name items body, end_ + 1)
  | .count _ start test step body =>
    let (body, end_) := body.from_ (l + 2)
    (.count l start test step body, end_ + 1)
  | .select _ subject cases =>
    let (cases, end_) := Statement.casesFrom l cases
    (.select l subject cases, end_ + 1)
  | .group c =>
    let (c, l) := c.from_ l
    (.group c, l)
  | .subshell _ c =>
    let (c, l) := c.from_ l
    (.subshell l c, l)
  | .expression _ text => (.expression l text, l)
  | .condition _ c => (.condition l c, l)
  | .redirected c redirections =>
    let (c, l) := c.from_ l
    (.redirected c redirections, l)
  | .define _ name body =>
    let (body, end_) := body.from_ (l + 1)
    (.define l name body, end_)

/-- The commands of a pipeline from a line on. -/
def Statement.allFrom (l : Nat) : List Statement → List Statement × Nat
  | [] => ([], l)
  | c :: cs =>
    let (c, l) := c.from_ l
    let (cs, l) := Statement.allFrom l cs
    (c :: cs, l)

/-- The cases of a distinction that starts on a line, or behind the end of the case there. -/
def Statement.casesFrom (l : Nat) : List Case → List Case × Nat
  | [] => ([], l)
  | .of patterns body ending :: cs =>
    let (body, l) := body.from_ (l + 2)
    let (cs, l) := Statement.casesFrom (l + 1) cs
    (.of patterns body ending :: cs, l)

end

/-- A command within a word, with its lines counted from zero on. -/
def Statement.relined (c : Statement) : Statement := (c.from_ 0).1

end CompileTree.Shell.Extended
