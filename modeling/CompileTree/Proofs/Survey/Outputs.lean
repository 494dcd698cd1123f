import CompileTree.Proofs.Survey.SearchDirectories
import Mathlib

/-! # The outputs of a survey

The output of a source is written next to it, under its name with `.o` behind. Such
a name is no name of a source, and it tells the name of the source. So a command that is
made for a survey writes over neither a source nor the output of another command
(`outputs_apart`), unless links are followed that show one source under two paths.
-/

namespace CompileTree

namespace Path

variable {p q : Path}

theorem hasExtension_congr {extensions : List String} (same : p.components = q.components) :
    p.hasExtension extensions = q.hasExtension extensions := by
  have named : p.fileName? = q.fileName? := by rw [fileName?, same, ← fileName?]
  rw [hasExtension, hasExtension, extension?, named, ← extension?]

end Path

namespace Synthesis

variable {p q directory : Path} {name : String} {compiler : Compiler} {index : SuffixIndex}
  {scan : Scan}

/-! ## The path of an output -/

/-- The path of the output of a source. -/
def outputOf (source : Path) : Path := ⟨source.text ++ outputSuffix⟩

theorem isName_append_outputSuffix (plain : '/' ∉ name.toList) :
    Path.IsName (name ++ outputSuffix) := by
  have ends : ∀ short : String, short.toList.getLast? ≠ some 'o' → name ++ outputSuffix ≠ short := by
    rintro _ other rfl
    refine other ?_
    rw [String.toList_append, List.getLast?_append_of_ne_nil _ (by decide)]
    rfl
  refine ⟨ends _ (by decide), ?_, ends _ (by decide), ends _ (by decide)⟩
  rw [String.toList_append]
  exact List.not_mem_append plain (by decide)

/-- The last name in the path of an output is that of the source with `.o` behind. -/
theorem exists_components_outputOf (p : Path) :
    ∃ (before : List Char) (name : String),
      p.chars = before ++ name.toList ∧ Path.Opens before ∧ '/' ∉ name.toList ∧
        (outputOf p).components = Path.componentsOf before ++ [.name (name ++ outputSuffix)] := by
  obtain ⟨before, last, cut, opens, plain⟩ := Path.exists_opens p.chars
  refine ⟨before, String.ofList last, by rwa [String.toList_ofList], opens,
    by rwa [String.toList_ofList], ?_⟩
  have spelled : (outputOf p).chars = before ++ (String.ofList last ++ outputSuffix).toList := by
    have whole : (outputOf p).chars = p.chars ++ outputSuffix.toList := String.toList_append
    rw [whole, cut, String.toList_append, String.toList_ofList, List.append_assoc]
  rw [Path.components, spelled, Path.componentsOf_append_name opens]
  exact isName_append_outputSuffix (by rwa [String.toList_ofList])

/-- The extension of an output is `o`, if it has one. -/
theorem hasExtension_outputOf {extensions : List String} (other : "o" ∉ extensions) (p : Path) :
    (outputOf p).hasExtension extensions = false := by
  obtain ⟨before, name, -, -, -, components⟩ := exists_components_outputOf p
  have named : (outputOf p).fileName? = some (name ++ outputSuffix) := by
    rw [Path.fileName?, components, List.getLast?_concat]
  have extended : ∀ e, Path.extensionOf (name ++ outputSuffix).toList = some e → e = ['o'] := by
    have spelled : (name ++ outputSuffix).toList = name.toList ++ '.' :: ['o'] := String.toList_append
    intro e h
    rw [spelled, Path.extensionOf_append_dot (by decide)] at h
    split at h
    · cases h
    · exact (Option.some.inj h).symm
  rw [Path.hasExtension, Path.extension?, named, Option.bind_some]
  split
  · next e found =>
      have lowered : Text.lower ['o'] = "o".toList := by decide
      rw [extended e found, lowered, List.any_eq_false]
      intro e he same
      exact other (String.toList_injective (eq_of_beq same) ▸ he)
  · rfl

/-- No output has the name of a source or a header. -/
theorem not_scanned_outputOf (p : Path) : ((outputOf p).isSource || (outputOf p).isHeader) = false := by
  rw [Path.isSource, Path.isHeader, hasExtension_outputOf (by decide),
    hasExtension_outputOf (by decide)]
  rfl

/-- Outputs at one place are those of sources at one place. -/
theorem components_outputOf_injective (same : (outputOf p).components = (outputOf q).components) :
    p.components = q.components := by
  obtain ⟨before, name, cutP, opens, plain, hp⟩ := exists_components_outputOf p
  obtain ⟨before', name', cutQ, opens', plain', hq⟩ := exists_components_outputOf q
  rw [hp, hq] at same
  obtain ⟨sameStart, sameName⟩ := List.append_inj' same rfl
  obtain rfl : name = name' := by
    have names := Path.Component.name.inj (List.cons.inj sameName).1
    exact (String.append_left_inj _).1 names
  rw [Path.components, Path.components, cutP, cutQ]
  -- A name alone may be a leading `.`, but then it stands alone in both.
  rcases opens with rfl | ⟨start, rfl⟩
  · rw [Path.componentsOf_eq_nil_iff.1 sameStart.symm]
  · rcases opens' with rfl | ⟨start', rfl⟩
    · rw [Path.componentsOf_eq_nil_iff.1 sameStart]
    · rw [Path.componentsOf_append_last plain, Path.componentsOf_append_last plain, sameStart]

/-- The output of a file in a directory is in the directory. -/
theorem outputOf_join (h : Path.IsName name) :
    outputOf (directory.join ⟨name⟩) = directory.join ⟨name ++ outputSuffix⟩ := by
  have relative : (Path.mk (name ++ outputSuffix)).isAbsolute = false :=
    (isName_append_outputSuffix h.2.1).relative
  rw [outputOf, Path.join_eq_of_relative h.relative, Path.join_eq_of_relative relative]
  split <;> simp [String.append_assoc]

/-- However a resolver answers, the commands are those of the sources. -/
theorem exists_offers {ε : Type} {resolver : Option (Resolver (Except ε))} {commands : List Spec}
    (generated : specs compiler index resolver scan = .ok commands) :
    ∃ offers, commands = scan.sources.paths.map (specFor compiler index scan offers) := by
  cases resolver with
  | none =>
      rw [specs_none] at generated
      exact ⟨[], (Except.ok.inj generated).symm⟩
  | some resolve =>
      rw [specs_some] at generated
      cases answer : resolve (allMissing index scan) with
      | error e =>
          rw [answer] at generated
          cases generated
      | ok offers =>
          rw [answer] at generated
          exact ⟨offers, (Except.ok.inj generated).symm⟩

end Synthesis

namespace Survey

open Files Synthesis

/-! ## Where outputs are written -/

/-- The place that is written to by a path: a link that stands there is replaced. -/
def Input.place (i : Input) (p : Path) : Except Error Location := i.tree.locate i.working false p

/-- Two paths of which the one is not overwritten when the other one is written to: they
    are different, and below a directory so are their places. -/
structure Apart (i : Input) (p q : Path) : Prop where
  components : p.components ≠ q.components
  places : i.tree.WellFormed → i.tree.isDirectory i.working i.root = true →
    ∀ l, i.place p = .ok l → i.place q ≠ .ok l

/-- Two commands whose outputs are different paths. They are at one place only if links
    are followed that show one source under two paths. -/
structure Separate (i : Input) (a b : Spec) : Prop where
  components : (Path.mk a.output).components ≠ (Path.mk b.output).components
  places : i.tree.WellFormed → i.tree.isDirectory i.working i.root = true →
    ∀ l, i.place ⟨a.output⟩ = .ok l → i.place ⟨b.output⟩ = .ok l →
      i.followLinks = true ∧ ∃ source, i.place a.file = .ok source ∧ i.place b.file = .ok source

variable {i : Input} {p q s : Path} {l : Location}

theorem mem_scanned_of_mem_sources (h : s ∈ i.scan.sources.paths) : s ∈ scanned i.walked := by
  have held : i.scan.sources.paths = i.survey.sources.paths := rfl
  rw [held, Input.survey, ofTree, ofFiles, sources_foldl] at h
  rcases Path.Table.mem_paths_insertMany h with h | h
  · rw [List.map_map] at h
    obtain ⟨s', hs, rfl⟩ := List.mem_map.1 h
    obtain ⟨included, counts⟩ := List.mem_filter.1 (List.mem_of_mem_filter hs)
    exact List.mem_filter.2 ⟨List.mem_of_mem_filter included, counts⟩
  · cases h

/-- Where an output is written in a directory, and where its source then stands. -/
theorem place_of_outputOf {directory : Path} {place : Location} {name : String}
    (leads : i.tree.entry i.working true directory = .ok (place, .directory)) (h : Path.IsName name)
    (written : i.place (outputOf (directory.join ⟨name⟩)) = .ok l) :
    l = place ++ [name ++ outputSuffix] ∧ i.place (directory.join ⟨name⟩) = .ok (place ++ [name]) := by
  have isName := isName_append_outputSuffix h.2.1
  have long : (outputOf (directory.join ⟨name⟩)).text.utf8ByteSize =
      (directory.join ⟨name⟩).text.utf8ByteSize + outputSuffix.utf8ByteSize :=
    String.utf8ByteSize_append
  have longer : (name ++ outputSuffix).utf8ByteSize = name.utf8ByteSize + outputSuffix.utf8ByteSize :=
    String.utf8ByteSize_append
  obtain ⟨-, -, -, short⟩ := Tree.follow_of_locate written
  have short' : (directory.join ⟨name⟩).text.utf8ByteSize ≤ pathLimit := by omega
  have noLink : ∀ n, false = true → ∀ target, i.tree.get? (place ++ [n]) ≠ some (.link target) :=
    fun _ follows => absurd follows Bool.false_ne_true
  rw [Input.place, outputOf_join h] at written
  rw [outputOf_join h] at short
  refine ⟨Tree.eq_of_locate_join leads isName written, ?_⟩
  rw [Tree.locate_join leads isName (noLink _) short] at written
  rw [Input.place, Tree.locate_join leads h (noLink _) short']
  split at written
  · cases written
  · next noNul =>
      split at written
      · cases written
      · next fits =>
          have noNul' : '\x00' ∉ name.toList := fun nul =>
            noNul (String.toList_append ▸ List.mem_append_left _ nul)
          rw [if_neg noNul', if_neg (by omega)]

section Places

variable (hwf : i.tree.WellFormed) (directory : i.tree.isDirectory i.working i.root = true)
include hwf directory

theorem exists_walked_of_mem_walked (h : p ∈ i.walked) :
    ∃ names, p = i.root.descend names ∧ (∀ name ∈ names, Path.IsName name) ∧
      Tree.Walked i.tree i.working i.followLinks i.root names := by
  obtain ⟨names, rfl, ⟨rfl, isFile⟩ | walked⟩ := Tree.mem_files h
  · rw [Tree.isDirectory] at directory
    rw [Tree.isFile] at isFile
    split at directory <;> simp_all
  · exact ⟨names, rfl, walked.named hwf, walked⟩

/-- A file that is found below a directory is found by a name in a directory. -/
theorem exists_directory_of_mem_walked (h : p ∈ i.walked) :
    ∃ directory place name, Path.IsName name ∧ p = directory.join ⟨name⟩ ∧
      i.tree.entry i.working true directory = .ok (place, .directory) := by
  obtain ⟨names, rfl, named, walked⟩ := exists_walked_of_mem_walked hwf directory h
  obtain ⟨dirs, name, place, rfl, leads⟩ := walked.exists_directory
  refine ⟨i.root.descend dirs, place, name, named name (by simp), ?_, leads⟩
  rw [Path.descend_append]
  rfl

/-- Where no link is followed, the files that are found are at different places. -/
theorem eq_of_place (unfollowed : i.followLinks = false) (hp : p ∈ i.walked) (hq : q ∈ i.walked)
    (here : i.place p = .ok l) (there : i.place q = .ok l) : p = q := by
  have found : ∀ {p : Path}, p ∈ i.walked → i.place p = .ok l →
      ∃ root names, i.tree.entry i.working true i.root = .ok (root, .directory) ∧
        p = i.root.descend names ∧ l = root ++ names := by
    intro p hp here
    obtain ⟨names, rfl, named, walked⟩ := exists_walked_of_mem_walked hwf directory hp
    rw [unfollowed] at walked
    obtain ⟨root, dirs, name, rfl, opens, leads⟩ := walked.leads hwf
    rw [Path.descend_append] at here
    have hl := Tree.eq_of_locate_join leads (named name (by simp)) here
    exact ⟨root, dirs ++ [name], opens, rfl, by rw [hl, List.append_assoc]⟩
  obtain ⟨root, names, opens, rfl, rfl⟩ := found hp here
  obtain ⟨root', names', opens', rfl, same⟩ := found hq there
  cases opens.symm.trans opens'
  rw [List.append_cancel_left same]

/-- Outputs are at one place only if their sources are. -/
theorem exists_place_of_outputOf (hp : p ∈ i.walked) (hq : q ∈ i.walked)
    (here : i.place (outputOf p) = .ok l) (there : i.place (outputOf q) = .ok l) :
    ∃ source, i.place p = .ok source ∧ i.place q = .ok source := by
  obtain ⟨_, place, name, isName, rfl, leads⟩ := exists_directory_of_mem_walked hwf directory hp
  obtain ⟨_, place', name', isName', rfl, leads'⟩ := exists_directory_of_mem_walked hwf directory hq
  obtain ⟨hl, stands⟩ := place_of_outputOf leads isName here
  obtain ⟨hl', stands'⟩ := place_of_outputOf leads' isName' there
  obtain ⟨rfl, sameName⟩ := List.append_inj' (hl.symm.trans hl') rfl
  obtain rfl : name = name' := (String.append_left_inj _).1 (List.cons.inj sameName).1
  exact ⟨_, stands, stands'⟩

/-- A file that is found at the place of an output is itself named as an output. -/
theorem exists_eq_outputOf (hp : p ∈ i.walked) (hq : q ∈ i.walked)
    (here : i.place (outputOf p) = .ok l) (there : i.place q = .ok l) : ∃ p', q = outputOf p' := by
  obtain ⟨_, place, name, isName, rfl, leads⟩ := exists_directory_of_mem_walked hwf directory hp
  obtain ⟨d, place', name', isName', rfl, leads'⟩ := exists_directory_of_mem_walked hwf directory hq
  obtain ⟨hl, -⟩ := place_of_outputOf leads isName here
  have hl' := Tree.eq_of_locate_join leads' isName' there
  obtain ⟨-, sameName⟩ := List.append_inj' (hl.symm.trans hl') rfl
  obtain rfl := (List.cons.inj sameName).1
  exact ⟨d.join ⟨name⟩, (outputOf_join isName).symm⟩

end Places

/-! ## No output is overwritten -/

theorem apart_scanned (hp : p ∈ i.walked) (hs : s ∈ scanned i.walked) : Apart i (outputOf p) s := by
  obtain ⟨walked, counts⟩ := List.mem_filter.1 hs
  constructor
  · intro same
    have refused := not_scanned_outputOf p
    rw [Path.isSource, Path.isHeader, Path.hasExtension_congr same, Path.hasExtension_congr same,
      ← Path.isSource, ← Path.isHeader, counts] at refused
    cases refused
  · intro hwf directory l here there
    obtain ⟨p', rfl⟩ := exists_eq_outputOf hwf directory hp walked here there
    rw [not_scanned_outputOf] at counts
    cases counts

theorem separate_outputs {a b : Spec} (ha : a.file ∈ i.walked) (hb : b.file ∈ i.walked)
    (declaredA : outputOf a.file = ⟨a.output⟩) (declaredB : outputOf b.file = ⟨b.output⟩)
    (different : a.file.components ≠ b.file.components) : Separate i a b := by
  constructor
  · rw [← declaredA, ← declaredB]
    exact fun same => different (components_outputOf_injective same)
  · intro hwf directory l here there
    rw [← declaredA] at here
    rw [← declaredB] at there
    obtain ⟨source, stands, stands'⟩ := exists_place_of_outputOf hwf directory ha hb here there
    refine ⟨?_, source, stands, stands'⟩
    by_contra refuted
    have unfollowed := Bool.eq_false_iff.2 refuted
    have one := eq_of_place hwf directory unfollowed ha hb stands stands'
    exact different (congrArg Path.components one)

/-- Two sources whose names are alike, and the output of one of them. -/
def builtInput : Input where
  tree := (((Tree.empty.put ["p"] .directory).put ["p", "a.c"] (.file .empty false)).put
    ["p", "a.cc"] (.file .empty false)).put ["p", "a.c.o"] (.file .empty false)
  working := []
  root := ⟨"/p"⟩
  filter := .everything ⟨"/p"⟩
  followLinks := false

theorem entry_builtInput (b : Bool) : builtInput.tree.entry [] b ⟨"/p"⟩ = .ok (["p"], .directory) := by
  cases b <;> cbv

theorem walked_builtInput : builtInput.walked = [⟨"/p/a.c"⟩, ⟨"/p/a.cc"⟩, ⟨"/p/a.c.o"⟩] := by
  have walked : builtInput.walked = builtInput.tree.filesWithin [] ⟨"/p"⟩ false 36 := rfl
  rw [walked, Tree.filesWithin, entry_builtInput, entry_builtInput]
  simp only
  rw [Tree.filesBelow_of_directory (entry_builtInput true)]
  rfl

theorem read_builtInput :
    builtInput.read ⟨"/p/a.c"⟩ = .ok .empty ∧ builtInput.read ⟨"/p/a.cc"⟩ = .ok .empty := by
  have first : Files.steps "/p/a.c" = ["p", "a.c"] := by decide
  have second : Files.steps "/p/a.cc" = ["p", "a.cc"] := by decide
  rw [Input.read, Input.read, Tree.read, Tree.read, Tree.entry, Tree.entry,
    Tree.locate_rooted (by decide) (by decide) (by decide),
    Tree.locate_rooted (by decide) (by decide) (by decide), first, second]
  constructor <;> cbv

end Survey

end CompileTree
