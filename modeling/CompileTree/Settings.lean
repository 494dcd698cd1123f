import CompileTree.Batch
import CompileTree.Compiler
import CompileTree.Settings.Stored

/-! # Settings

What a user asks for on the command line or in the environment wins over what is
stored with the tree, and that wins over the defaults.
-/

namespace CompileTree

/-- What a user asks for. -/
structure Overrides where
  filters : Option String
  followLinks : Bool
  compiler : Option String
  threads : Option Nat
  verbose : Bool
  noSystemIncludes : Bool
  scratchDirectory : Option Path
  logDirectory : Option Path
  deriving DecidableEq, Repr

/-- The settings that are in force. -/
structure Settings where
  filters : String
  followLinks : Bool
  compiler : Option Family
  /-- How many commands may run at once. -/
  threads : Nat
  verbose : Bool
  systemIncludes : Bool
  scratchDirectory : Option Path
  logDirectory : Option Path
  deriving DecidableEq, Repr

/-- How many commands run at once: one, unless another number is asked for. -/
def threadCount (requested : Option Nat) : Nat := Batch.workers (requested.getD 0)

namespace Settings

/-- The settings in force, or the name of a compiler that is not known. -/
def resolve (asked : Overrides) (stored : StoredSettings) : Except String Settings := do
  let index := stored.index.getD ⟨none, none⟩
  let compiler := stored.compiler.getD ⟨none, none⟩
  let run := stored.run.getD ⟨none, none, none, none⟩
  let family ← match asked.compiler <|> compiler.preferred with
    | some name =>
      match Family.ofName? name with
      | some family => pure (some family)
      | none => throw name
    | none => pure none
  return {
    filters := (asked.filters <|> index.filters).getD ""
    followLinks := asked.followLinks || index.followLinks.getD false
    compiler := family
    threads := threadCount (asked.threads <|> run.threads)
    verbose := asked.verbose || run.verbose.getD false
    systemIncludes := !asked.noSystemIncludes && compiler.systemIncludes.getD true
    scratchDirectory := asked.scratchDirectory <|> run.scratchDirectory
    logDirectory := asked.logDirectory <|> run.logDirectory }

end Settings

end CompileTree
