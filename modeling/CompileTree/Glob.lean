import CompileTree.Glob.Regex
import CompileTree.Path.Normal

/-! # Globs

A glob is a path pattern. `?` stands for one character other than a separator,
`*` for any run of those, and a longer run of stars for any text at all; such a
run together with a separator after it may also stand for nothing, so that
`a/**/b` covers `a/b`. Everything else stands for itself, and a glob has to
match the whole path.
-/

namespace CompileTree

/-- A place of a glob. -/
inductive Glob.Token where
  | literal (c : Char)
  /-- `?` -/
  | single
  /-- `*` -/
  | segment
  /-- `**` -/
  | anything
  /-- `**` with the separator after it -/
  | directories
  deriving DecidableEq, Repr

namespace Glob

/-- What a run of `n` stars stands for. -/
def ofStars : Nat → List Token
  | 0 => []
  | 1 => [.segment]
  | _ + 2 => [.anything]

/-- The places of a glob in normal form, after `stars` stars have been read. -/
def scan (stars : Nat) : List Char → List Token
  | [] => ofStars stars
  | c :: cs =>
    if c = '*' then scan (stars + 1) cs
    else if 2 ≤ stars ∧ c = '/' then .directories :: scan 0 cs
    else ofStars stars ++ (if c = '?' then .single else .literal c) :: scan 0 cs

/-- The places of a glob. -/
def tokens (pattern : List Char) : List Token := scan 0 (Path.normalChars pattern)

/-- The expression for one place. -/
def Token.regex : Token → Regex
  | .literal c => .one (.only c)
  | .single => .one .notSlash
  | .segment => .many .notSlash
  | .anything => .many .any
  | .directories => .optional (.seq (.many .any) (.one (.only '/')))

/-- The expression for a glob. -/
def regex (pattern : List Char) : Regex :=
  (tokens pattern).foldr (fun t r => .seq t.regex r) .empty

/-- An expression as it is written, as a group in which a dot covers line ends too. -/
def groupText (r : Regex) : List Char := "(?s:".toList ++ r.text ++ [')']

/-- The expression for a glob as it is written. -/
def regexText (pattern : String) : String := String.ofList (groupText (regex pattern.toList))

/-- Alternative globs. -/
structure Alternatives where
  choices : List Regex
  deriving DecidableEq, Repr

namespace Alternatives

/-- The alternatives written as the given patterns. -/
def ofPatterns (patterns : List (List Char)) : Alternatives := ⟨patterns.map regex⟩

/-- The alternatives written as one expression that matches nothing less than the
    whole text. -/
def text (a : Alternatives) : List Char :=
  "\\A(?:".toList ++ ['|'].intercalate (a.choices.map groupText) ++ ")\\z".toList

/-- Whether some alternative matches the whole text; without any, only the empty
    text is matched. -/
def accepts (a : Alternatives) (text : List Char) : Bool :=
  match a.choices with
  | [] => text.isEmpty
  | choices => choices.any (·.accepts text)

end Alternatives

example : regexText "a/**/b" = "(?s:a/(?:.*/)?b)" := by decide
example : regexText "a+b/*.h?" = "(?s:a\\+b/[^/]*\\.h[^/])" := by decide

example : (Alternatives.ofPatterns ["a/**/b".toList]).accepts "a/b".toList = true := by
  decide
example : (Alternatives.ofPatterns ["a/*/b".toList]).accepts "a/x/y/b".toList = false := by
  decide

end Glob

end CompileTree
