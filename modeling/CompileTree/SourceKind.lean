import CompileTree.Path
import CompileTree.Text.LowerCase

/-! # Kinds of source files

Sources and headers are told apart by their extension, whatever its case. Which
of the two compilers a source needs is decided by how its whole path ends.
-/

namespace CompileTree.Path

/-- The extensions of files that are compiled. -/
def sourceExtensions : List String := ["c", "cc", "cpp", "cxx", "c++", "cp"]

/-- The extensions of files that are included. -/
def headerExtensions : List String := ["h", "hh", "hpp", "hxx", "h++", "inl", "ipp", "tpp"]

/-- Whether the extension of a path is in a list, whatever its case. -/
def hasExtension (extensions : List String) (p : Path) : Bool :=
  match p.extension? with
  | some e => extensions.any (·.toList == Text.lower e)
  | none => false

/-- Whether a path names a file that is compiled. -/
def isSource (p : Path) : Bool := p.hasExtension sourceExtensions

/-- Whether a path names a file that is included. -/
def isHeader (p : Path) : Bool := p.hasExtension headerExtensions

/-- Whether a source is compiled as C: its path ends in `.c`, whatever the case. -/
def isC (p : Path) : Bool := ".c".toList.isSuffixOf (Text.lower p.chars)

example : isSource ⟨"lib/x.CPP"⟩ = true := by decide
example : isSource ⟨".c"⟩ = false ∧ isC ⟨".c"⟩ = true := by decide

end CompileTree.Path
