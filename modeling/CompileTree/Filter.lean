import CompileTree.Glob
import CompileTree.Text.Lines

/-! # Filters

A filter says which paths of a tree count. It is written one rule a line, either
`include:` or `exclude:` with a glob seen from the root of the tree. A rule
applies to the paths its glob matches and to everything below them. A path
counts when an inclusion applies to it and no exclusion does, in whatever order
they are written; a filter without any inclusion includes all below the root.
-/

namespace CompileTree

/-- Which paths of a tree count. -/
structure Filter where
  included : Glob.Alternatives
  excluded : Option Glob.Alternatives
  deriving Repr

namespace Filter

/-- What a line of a filter text says. -/
inductive Rule where
  | including (glob : List Char)
  | excluding (glob : List Char)
  deriving DecidableEq, Repr

/-- Reading a trimmed line: nothing for a blank one, and the line itself when it
    is neither an inclusion nor an exclusion. -/
def Rule.ofLine (line : List Char) : Except (List Char) (Option Rule) :=
  if line = [] then .ok none
  else
    match "include:".toList.isPrefixOf? line, "exclude:".toList.isPrefixOf? line with
    | some glob, _ => .ok (some (.including glob))
    | none, some glob => .ok (some (.excluding glob))
    | none, none => .error line

/-- The rules of a filter text, or the first line that is none. -/
def rules (text : List Char) : Except (List Char) (List Rule) :=
  ((Text.lines text).mapM fun line => Rule.ofLine (Text.trim line)).map (·.filterMap id)

/-- The globs that are included. -/
def Rule.included? : Rule → Option (List Char)
  | .including glob => some glob
  | .excluding _ => none

/-- The globs that are excluded. -/
def Rule.excluded? : Rule → Option (List Char)
  | .including _ => none
  | .excluding glob => some glob

/-- Spaces and separators around a glob do not count. -/
def isGlobMargin (c : Char) : Bool := c == ' ' || c == '/' || c == '\\'

/-- The patterns of a rule seen from the root: everything below what the glob
    matches, and the matched paths themselves. -/
def expand (root glob : List Char) : List (List Char) :=
  let glob := Text.strip isGlobMargin glob
  let pattern := if glob = [] then root else Text.dropRight (· == '/') root ++ '/' :: glob
  [pattern ++ "/**".toList, pattern]

/-- The filter that a text describes for the tree below `root`. -/
def ofText (root : Path) (text : String) : Except String Filter :=
  match rules text.toList with
  | .error line => .error (String.ofList line)
  | .ok rules =>
    let root := Path.normalChars root.chars
    let included := (rules.filterMap Rule.included?).flatMap (expand root)
    let excluded := (rules.filterMap Rule.excluded?).flatMap (expand root)
    .ok
      { included := .ofPatterns (if included = [] then [root ++ "/**".toList] else included)
        excluded := if excluded = [] then none else some (.ofPatterns excluded) }

/-- The filter that includes everything below `root`. -/
def everything (root : Path) : Filter :=
  { included := .ofPatterns [Path.normalChars root.chars ++ "/**".toList], excluded := none }

/-- Whether a path counts. -/
def includes (f : Filter) (p : Path) : Bool :=
  let text := Path.normalChars p.chars
  f.included.accepts text && !f.excluded.any (·.accepts text)

theorem ofText_empty (root : Path) : ofText root "" = .ok (everything root) := rfl

end Filter

end CompileTree
