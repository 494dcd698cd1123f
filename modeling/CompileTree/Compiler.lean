import CompileTree.Path
import CompileTree.Shell.Words
import CompileTree.Text.LowerCase

/-! # Compilers

The two families of compilers and how each of them is asked to check a file:
how a command starts, how directories, outputs and sources are given, and how
the arguments of a command are kept in a file that the compiler reads them from.
-/

namespace CompileTree

/-- The families of compilers. -/
inductive Family where
  | clang
  | msvc
  deriving DecidableEq, Repr

/-- A compiler that was found. -/
inductive Compiler where
  /-- One program for C and another for C++. -/
  | clang (c cxx : Path)
  | msvc (cl : Path)
  deriving DecidableEq, Repr

/-- The family that a user names, whatever the case. -/
def Family.ofName? (name : String) : Option Family :=
  let name := String.ofList (Text.lower name.toList)
  if name ∈ ["msvc", "cl", "cl.exe"] then some .msvc
  else if name ∈ ["clang", "clang++", "llvm"] then some .clang
  else none

namespace Compiler

/-- The family of a compiler. -/
def family : Compiler → Family
  | .clang .. => .clang
  | .msvc .. => .msvc

/-- The program that C++ is given to. -/
def cxx : Compiler → Path
  | .clang _ cxx => cxx
  | .msvc cl => cl

/-- How a command for a C++ file starts. -/
def cxxStart : Compiler → List String
  | .clang _ cxx => [cxx.text, "-std=c++20", "-fexceptions", "-c", "-fsyntax-only"]
  | .msvc cl => [cl.text, "/std:c++latest", "/Zs", "/EHs", "/permissive"]

/-- How a command for a C file starts. -/
def cStart : Compiler → List String
  | .clang c _ => [c.text, "-c", "-fsyntax-only"]
  | .msvc cl => [cl.text, "/Zs"]

/-- The argument for a directory in which included files are sought. -/
def searchFlag (compiler : Compiler) (directory : Path) : String :=
  match compiler with
  | .clang .. => "-I" ++ directory.text
  | .msvc .. => "/I" ++ directory.text

/-- The arguments for the declared output. -/
def outputFlags (compiler : Compiler) (output : String) : List String :=
  match compiler with
  | .clang .. => ["-o", output]
  | .msvc .. => ["/Fo" ++ output]

/-- The arguments for the source. -/
def sourceFlags (_ : Compiler) (source : String) : List String := [source]

/-- The text of a file that holds arguments: one quoted line for clang, which
    fails on a NUL, and one argument a line as it is for cl. -/
def responseText? (compiler : Compiler) (arguments : List String) : Option String :=
  match compiler with
  | .clang .. => Shell.quote? arguments
  | .msvc .. => some (String.join (arguments.map (· ++ "\n")))

end Compiler

end CompileTree
