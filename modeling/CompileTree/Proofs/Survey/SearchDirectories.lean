import CompileTree.Proofs.Survey
import CompileTree.Proofs.Synthesis
import Mathlib

/-! # The search directories of a source

The commands of a survey search the directories in which its index has the names
that the include walk found. So whatever a source reaches in the tree is found from
its command, and what a command searches are directories from which a directive
names a file; only the blank name, which every file completes, is different.
-/

namespace CompileTree.Survey

open Files SuffixIndex

/-- What a survey is made of. -/
structure Input where
  tree : Tree
  working : Location
  root : Path
  filter : Filter
  followLinks : Bool

namespace Input

variable (i : Input)

/-- The files below the root. -/
def walked : List Path := i.tree.files i.working i.root i.followLinks

/-- The files below the root that count. -/
def files : List Path := i.walked.filter i.filter.includes

/-- The bytes of a file. -/
def read (p : Path) : Except Error ByteArray := i.tree.read i.working p

/-- Whether a path leads to a file. -/
def isFile (p : Path) : Bool := i.tree.isFile i.working p

/-- What the survey finds. -/
def survey : Survey := ofTree i.tree i.working i.root i.filter i.followLinks

/-- What it finds for every source. -/
def scan : Scan := i.survey.scan i.isFile i.root

end Input

/-- The sources and headers that a source reaches by what they include. A file that is
    included from next to it is that file; any other name leads to all files whose
    names below the root end with it. -/
inductive Reaches (i : Input) (source : Path) : Path → Prop where
  | source : Reaches i source source
  | beside {f g d} : Reaches i source f → d ∈ includes (i.read f) → Include.Beside i.isFile f d →
      g ∈ scanned i.files → g.same (Include.sibling f.directory d.name) = true → Reaches i source g
  | ending {f g d dirs} : Reaches i source f → d ∈ includes (i.read f) → ¬ Include.Beside i.isFile f d →
      IsProper d.name → g ∈ scanned i.files →
      i.root.below? g = some ((dirs ++ components d.name).map .name) → Reaches i source g

/-- A directory that a directive asks for: from there it names a file that counts,
    further down, and no such file stands at the directory itself. -/
structure Serves (i : Input) (directory : Path) : Prop where
  names : ∃ f ∈ scanned i.files, ∃ d ∈ includes (i.read f), ∃ p ∈ i.files,
    (directory.join ⟨d.name⟩).components = p.components ∧
      directory.components <+: p.components ∧ directory.components ≠ p.components
  isNoFile : ∀ p ∈ i.files, directory.components ≠ p.components

variable {i : Input} {s f p directory : Path} {d : Include.Directive} {name : String}
  {names dirs : List String}

/-! ## What is read and indexed -/

theorem unresolvedFor_scan (h : s ∈ i.survey.sources.paths) :
    i.scan.unresolvedFor s = i.survey.unresolved i.isFile s :=
  scan_unresolvedFor i.survey i.isFile i.root h

/-- A name of a source stands in a directive that was read. -/
theorem exists_directive_of_mem_unresolvedFor (hs : s ∈ i.survey.sources.paths)
    (hname : name ∈ i.scan.unresolvedFor s) :
    ∃ f ∈ scanned i.files, ∃ d ∈ includes (i.read f), d.name = name := by
  rw [unresolvedFor_scan hs, unresolved, Include.unresolved,
    Include.mem_walk (Include.distinct_entries _)] at hname
  obtain ⟨f, -, asks⟩ := hname.resolve_left List.not_mem_nil
  obtain ⟨d, hd, rfl⟩ := List.mem_map.1 asks
  obtain ⟨p, hp, -, hread⟩ := exists_scanned_of_mem_directivesOf (List.mem_of_mem_filter hd)
  exact ⟨p, hp, d, hread, rfl⟩

theorem components_sibling (absolute : i.root.isAbsolute = true) (normal : i.root.normal = i.root)
    (plain : ∀ p ∈ i.walked, '\\' ∉ p.chars) (queried : name = "" ∨ IsProper name)
    (completes : Completes i.root i.files name dirs) :
    (Include.sibling (i.root.descend dirs) name).components =
      (i.root.descend (dirs ++ asked name)).components := by
  have joined := completes.components_join (Path.chars_ne_nil_of_isAbsolute absolute) queried
  obtain ⟨-, named, hp⟩ := completes
  have noBackslash : ∀ n ∈ dirs ++ asked name, '\\' ∉ n.toList := fun n hn backslash =>
    plain _ (List.mem_of_mem_filter hp) (Path.mem_chars_descend named (.inr ⟨n, hn, backslash⟩))
  rw [Include.sibling, Path.normal_congr joined,
    Path.components_normal_descend absolute normal named noBackslash]

section WellFormed

variable (hwf : i.tree.WellFormed) (absolute : i.root.isAbsolute = true)
include hwf

theorem Input.spelled_files : Spelled i.root i.files :=
  (Survey.spelled_files hwf _ _ _).filter _

include absolute

theorem eq_of_below (hp : p ∈ i.files) (hq : f ∈ i.files) (below : p.components <+: f.components) :
    p = f :=
  Tree.eq_of_below hwf (Path.chars_ne_nil_of_isAbsolute absolute) (List.mem_of_mem_filter hp)
    (List.mem_of_mem_filter hq) below

theorem alike_files : Alike i.files :=
  fun _ hp _ hq same => eq_of_below hwf absolute hp hq (same ▸ List.prefix_rfl)

theorem mem_sources : p ∈ i.survey.sources.paths ↔
    p ∈ i.files ∧ p.isSource = true ∧ (i.read p).isOk = true :=
  mem_sources_ofFiles (alike_files hwf absolute)

theorem directivesOf_survey (hp : p ∈ scanned i.files) (place : f.components = p.components) :
    Include.directivesOf i.survey.directives.entries f = includes (i.read p) := by
  rw [Include.directivesOf_congr place]
  exact directivesOf_ofFiles (alike_files hwf absolute) hp

theorem mem_directories : directory ∈ i.survey.index.directories name ↔
    (name = "" ∨ IsProper name) ∧
      ∃ dirs, Completes i.root i.files name dirs ∧ directory = i.root.descend dirs := by
  rw [Input.survey, ofTree, index_ofFiles]
  exact mem_directories_indexFiles (Path.chars_ne_nil_of_isAbsolute absolute)
    (Input.spelled_files hwf)

/-- A file whose names below the root end with those of a proper name completes it. -/
theorem completes_of_below (proper : IsProper name) (hp : p ∈ i.files)
    (hbelow : i.root.below? p = some ((dirs ++ components name).map .name)) :
    p = i.root.descend (dirs ++ asked name) ∧ Completes i.root i.files name dirs := by
  obtain ⟨names, rfl, named⟩ := Input.spelled_files hwf p hp
  rw [Path.below?_descend (Path.chars_ne_nil_of_isAbsolute absolute) named] at hbelow
  obtain rfl := Path.map_name_injective (Option.some.inj hbelow)
  rw [Completes, proper.asked]
  exact ⟨rfl, List.append_ne_nil_of_right_ne_nil _ (components_ne_nil name), named, hp⟩

end WellFormed

/-! ## What a source reaches -/

section Reaching

variable (hwf : i.tree.WellFormed) (absolute : i.root.isAbsolute = true)
  (normal : i.root.normal = i.root) (plain : ∀ p ∈ i.walked, '\\' ∉ p.chars)
include hwf absolute

/-- A name of a source is completed from the directories its command searches. -/
theorem mem_searchDirectories_of_completes {offers : Synthesis.Offers} (hname : name ∈ names)
    (queried : name = "" ∨ IsProper name) (completes : Completes i.root i.files name dirs) :
    i.root.descend dirs ∈ Synthesis.searchDirectories i.survey.index offers names := by
  have answers : i.root.descend dirs ∈ names.flatMap i.survey.index.directories :=
    List.mem_flatMap.2 ⟨name, hname, (mem_directories hwf absolute).2 ⟨queried, dirs, completes, rfl⟩⟩
  -- Another spelling of the place may be kept, but the index has only one of them.
  obtain ⟨directory, hkept, hfrom, same⟩ := Path.exists_mem_distinct_append answers
  obtain ⟨other, -, hother⟩ := List.mem_flatMap.1 hfrom
  obtain ⟨-, dirs', completes', rfl⟩ := (mem_directories hwf absolute).1 hother
  have equal := Path.descend_injective (Path.chars_ne_nil_of_isAbsolute absolute)
    completes'.named completes.named same
  rw [equal] at hkept
  exact hkept

include normal plain

/-- The include walk gets to every place that a source reaches. -/
theorem reach_of_reaches (hs : s ∈ scanned i.files) (h : Reaches i s f) :
    f ∈ scanned i.files ∧ ∃ f', f'.components = f.components ∧
      Include.Reach i.isFile i.survey.index i.survey.directives.entries [s] f' := by
  induction h with
  | source => exact ⟨hs, s, rfl, .start List.mem_cons_self⟩
  | @beside f g d _ hd hbeside hg same ih =>
      obtain ⟨hf, f', place, reached⟩ := ih
      have held := directivesOf_survey hwf absolute hf place
      refine ⟨hg, Include.sibling f'.directory d.name, ?_, reached.step (.beside (held ▸ hd) ?_)⟩
      · rw [Include.sibling, Path.normal_directory_join_congr place]
        exact (Path.same_iff.1 same).symm
      · exact (Include.beside_congr place).2 hbeside
  | @ending f g d dirs _ hd hbeside proper hg hbelow ih =>
      obtain ⟨hf, f', place, reached⟩ := ih
      have held := directivesOf_survey hwf absolute hf place
      obtain ⟨rfl, completes⟩ :=
        completes_of_below hwf absolute proper (List.mem_of_mem_filter hg) hbelow
      have answers : i.root.descend dirs ∈ i.survey.index.directories d.name :=
        (mem_directories hwf absolute).2 ⟨.inr proper, dirs, completes, rfl⟩
      refine ⟨hg, Include.sibling (i.root.descend dirs) d.name, ?_,
        reached.step (.indexed (held ▸ hd) ?_ answers)⟩
      · exact components_sibling absolute normal plain (.inr proper) completes
      · exact fun h => hbeside ((Include.beside_congr place).1 h)

/-- What a reached file asks for in vain next to itself is a name of the source. -/
theorem mem_unresolvedFor_of_reaches (hs : s ∈ i.survey.sources.paths) (hf : Reaches i s f)
    (hd : d ∈ includes (i.read f)) (hbeside : ¬ Include.Beside i.isFile f d) :
    d.name ∈ i.scan.unresolvedFor s := by
  obtain ⟨counts, isSource, -⟩ := (mem_sources hwf absolute).1 hs
  have hscanned : s ∈ scanned i.files := List.mem_filter.2 ⟨counts, by rw [isSource, Bool.true_or]⟩
  obtain ⟨known, f', place, reached⟩ := reach_of_reaches hwf absolute normal plain hscanned hf
  have asks : d.name ∈ Include.requested i.isFile i.survey.directives.entries f' := by
    rw [← Include.beside_congr place] at hbeside
    rw [← directivesOf_survey hwf absolute known place] at hd
    exact List.mem_map_of_mem (List.mem_filter.2 ⟨hd, decide_eq_true hbeside⟩)
  rw [unresolvedFor_scan hs, unresolved, Include.unresolved,
    Include.mem_walk (Include.distinct_entries _)]
  exact .inr ⟨f', reached, asks⟩

end Reaching

/-- A source with its header next to it, and what that asks for in a directory. -/
def headerInput (source header : ByteArray) : Input where
  tree := (((Tree.empty.put ["main.c"] (.file source false)).put ["util.h"] (.file header false)).put
    ["lib"] .directory).put ["lib", "base.h"] (.file .empty false)
  working := []
  root := ⟨"/"⟩
  filter := .everything ⟨"/"⟩
  followLinks := false

section HeaderInput

variable (source header : ByteArray)

theorem entry_headerInput :
    (headerInput source header).tree.entry [] true ⟨"/main.c"⟩ =
        .ok (["main.c"], .file source false) ∧
      (headerInput source header).tree.entry [] true ⟨"/util.h"⟩ =
        .ok (["util.h"], .file header false) := by
  have main : Files.steps "/main.c" = ["main.c"] := by decide
  have util : Files.steps "/util.h" = ["util.h"] := by decide
  rw [Tree.entry, Tree.entry, Tree.locate_rooted (by decide) (by decide) (by decide),
    Tree.locate_rooted (by decide) (by decide) (by decide), main, util]
  constructor <;> cbv

theorem walked_headerInput :
    (headerInput source header).walked = [⟨"/main.c"⟩, ⟨"/util.h"⟩, ⟨"/lib/base.h"⟩] := by
  have root : ∀ b, (headerInput source header).tree.entry [] b ⟨"/"⟩ = .ok ([], .directory) := by
    intro b
    cases b <;> cbv
  have lib : (headerInput source header).tree.entry [] true ⟨"/lib"⟩ = .ok (["lib"], .directory) := by
    cbv
  have below : (headerInput source header).tree.filesBelow [] false 35 ⟨"/lib"⟩ [[]] =
      [⟨"/lib/base.h"⟩] := by
    rw [Tree.filesBelow_of_directory lib]
    rfl
  have walked : (headerInput source header).walked =
      (headerInput source header).tree.filesWithin [] ⟨"/"⟩ false 36 := rfl
  rw [walked, Tree.filesWithin, root, root]
  simp only
  rw [Tree.filesBelow_of_directory (root true)]
  exact congrArg (fun found => [⟨"/main.c"⟩, ⟨"/util.h"⟩] ++ (found ++ [])) below

end HeaderInput

section Searching

variable (hwf : i.tree.WellFormed) (absolute : i.root.isAbsolute = true)
include hwf absolute

/-- Without offers, what is searched for some names are the directories that complete
    one of them. -/
theorem mem_searchDirectories :
    directory ∈ Synthesis.searchDirectories i.survey.index [] names ↔
      ∃ name ∈ names, (name = "" ∨ IsProper name) ∧
        ∃ dirs, Completes i.root i.files name dirs ∧ directory = i.root.descend dirs := by
  constructor
  · intro h
    rcases List.mem_append.1 (Path.mem_of_mem_distinct h) with h | h
    · obtain ⟨name, hname, hdirectory⟩ := List.mem_flatMap.1 h
      exact ⟨name, hname, (mem_directories hwf absolute).1 hdirectory⟩
    · obtain ⟨name, -, hdirectory⟩ := List.mem_flatMap.1 h
      cases hdirectory
  · rintro ⟨name, hname, queried, dirs, completes, rfl⟩
    exact mem_searchDirectories_of_completes hwf absolute hname queried completes

/-- From where a name that is not blank is completed, it names a file further down. -/
theorem serves_of_completes (hf : f ∈ scanned i.files) (hd : d ∈ includes (i.read f))
    (proper : IsProper d.name) (completes : Completes i.root i.files d.name dirs) :
    Serves i (i.root.descend dirs) := by
  have nonempty := Path.chars_ne_nil_of_isAbsolute absolute
  have further := completes.components_descend nonempty
  have above : (i.root.descend dirs).components <+:
      (i.root.descend (dirs ++ asked d.name)).components := further ▸ List.prefix_append _ _
  have properly : (i.root.descend dirs).components ≠
      (i.root.descend (dirs ++ asked d.name)).components := by
    rw [further, proper.asked]
    simpa using components_ne_nil d.name
  have joined := completes.components_join nonempty (.inr proper)
  obtain ⟨-, -, hp⟩ := completes
  refine ⟨⟨f, hf, d, hd, _, hp, joined, above, properly⟩, fun p hfile same => ?_⟩
  rw [← eq_of_below hwf absolute hfile hp (same ▸ above)] at properly
  exact properly same

/-- Below a root that is a file there is nothing. -/
theorem not_completes_of_root (isFile : i.root ∈ i.files) : ¬ Completes i.root i.files name dirs := by
  rintro ⟨some, named, hp⟩
  have below := Path.components_descend (Path.chars_ne_nil_of_isAbsolute absolute) named
  rw [← eq_of_below hwf absolute isFile hp (below ▸ List.prefix_append _ _)] at below
  exact some (by simpa using below)

/-- Every file below the root completes the blank name, and is searched for it. -/
theorem mem_searchDirectories_of_blank (blank : "" ∈ names) (hp : p ∈ i.files) (notRoot : p ≠ i.root) :
    p ∈ Synthesis.searchDirectories i.survey.index [] names := by
  obtain ⟨dirs, rfl, named⟩ := Input.spelled_files hwf p hp
  have some : dirs ≠ [] := by
    rintro rfl
    exact notRoot rfl
  have completes : Completes i.root i.files "" dirs := by
    rw [Completes, asked, if_pos rfl, List.append_nil]
    exact ⟨some, named, hp⟩
  exact (mem_searchDirectories hwf absolute).2 ⟨"", blank, .inl rfl, dirs, completes, rfl⟩

/-- What is searched for the names of a source is a directory that a directive asks
    for, or for the blank name a file. -/
theorem serves_or_mem_files (hs : s ∈ i.survey.sources.paths)
    (h : directory ∈ Synthesis.searchDirectories i.survey.index [] (i.scan.unresolvedFor s)) :
    Serves i directory ∨ directory ∈ i.files ∧ "" ∈ i.scan.unresolvedFor s := by
  obtain ⟨name, hname, queried, dirs, completes, rfl⟩ := (mem_searchDirectories hwf absolute).1 h
  rcases queried with rfl | proper
  · obtain ⟨-, -, hp⟩ := completes
    rw [asked, if_pos rfl, List.append_nil] at hp
    exact .inr ⟨hp, hname⟩
  · obtain ⟨f, hf, d, hd, rfl⟩ := exists_directive_of_mem_unresolvedFor hs hname
    exact .inl (serves_of_completes hwf absolute hf hd proper completes)

/-- Without a resolver, what a command searches are directories that directives ask
    for, unless its source needs the blank name: for that it searches files. It then
    does, if the source is not the root itself. -/
theorem exists_directories_of_mem_specs (compiler : Compiler) :
    ∀ command ∈ Id.run (Synthesis.specs compiler i.survey.index none i.scan),
      ∃ directories, command = Synthesis.spec compiler i.root command.file directories ∧
        (∀ directory ∈ directories,
          Serves i directory ∨ directory ∈ i.files ∧ "" ∈ i.scan.unresolvedFor command.file) ∧
        ((∀ directory ∈ directories, Serves i directory) ↔
          "" ∉ i.scan.unresolvedFor command.file ∨ command.file = i.root) := by
  rw [Synthesis.specs_none]
  rintro _ hcommand
  obtain ⟨s, hs, rfl⟩ := List.mem_map.1 hcommand
  have counts : s ∈ i.files := ((mem_sources hwf absolute).1 hs).1
  refine ⟨_, rfl, fun _ h => serves_or_mem_files hwf absolute hs h, ?_, ?_⟩
  · intro serves
    by_contra refuted
    obtain ⟨needed, notRoot⟩ := not_or.1 refuted
    have itself := mem_searchDirectories_of_blank hwf absolute (not_not.1 needed) counts notRoot
    exact (serves s itself).isNoFile s counts rfl
  · rintro (notBlank | isRoot) directory hdirectory
    · exact (serves_or_mem_files hwf absolute hs hdirectory).resolve_right fun h => notBlank h.2
    · obtain ⟨_, -, -, _, completes, -⟩ := (mem_searchDirectories hwf absolute).1 hdirectory
      have isFile : i.root ∈ i.files := (show s = i.root from isRoot) ▸ counts
      exact absurd completes (not_completes_of_root hwf absolute isFile)

end Searching

/-- A source alone in a directory. -/
def sourceInput (source : ByteArray) : Input where
  tree := (Tree.empty.put ["p"] .directory).put ["p", "main.cpp"] (.file source false)
  working := []
  root := ⟨"/p"⟩
  filter := .everything ⟨"/p"⟩
  followLinks := false

section SourceInput

variable (source : ByteArray)

theorem wellFormed_sourceInput : (sourceInput source).tree.WellFormed :=
  (Tree.wellFormed_empty.put (by decide)).put (by decide)

theorem read_sourceInput : (sourceInput source).read ⟨"/p/main.cpp"⟩ = .ok source := by
  have main : Files.steps "/p/main.cpp" = ["p", "main.cpp"] := by decide
  rw [Input.read, Tree.read, Tree.entry, Tree.locate_rooted (by decide) (by decide) (by decide), main]
  cbv

theorem walked_sourceInput : (sourceInput source).walked = [⟨"/p/main.cpp"⟩] := by
  have root : ∀ b, (sourceInput source).tree.entry [] b ⟨"/p"⟩ = .ok (["p"], .directory) := by
    intro b
    cases b <;> cbv
  have walked : (sourceInput source).walked =
      (sourceInput source).tree.filesWithin [] ⟨"/p"⟩ false 16 := rfl
  rw [walked, Tree.filesWithin, root, root]
  simp only
  rw [Tree.filesBelow_of_directory (root true)]
  rfl

theorem files_sourceInput : (sourceInput source).files = [⟨"/p/main.cpp"⟩] := by
  rw [Input.files, walked_sourceInput]
  change [_].filter (Filter.everything ⟨"/p"⟩).includes = _
  decide

end SourceInput

/-- A directive without a name asks for the blank name. -/
theorem blank_mem_unresolvedFor :
    let i := sourceInput "#include < >\n".toUTF8
    ⟨"/p/main.cpp"⟩ ∈ i.survey.sources.paths ∧ "" ∈ i.scan.unresolvedFor ⟨"/p/main.cpp"⟩ := by
  generalize hsource : "#include < >\n".toUTF8 = source
  intro i
  have hwf : i.tree.WellFormed := wellFormed_sourceInput source
  have absolute : (Path.mk "/p").isAbsolute = true := by decide
  have normal : (Path.mk "/p").normal = ⟨"/p"⟩ := by decide
  have read : i.read ⟨"/p/main.cpp"⟩ = .ok source := read_sourceInput source
  have plain : ∀ p ∈ i.walked, '\\' ∉ p.chars := by
    rw [walked_sourceInput]
    decide
  have asks : ⟨"", false⟩ ∈ includes (i.read ⟨"/p/main.cpp"⟩) := by
    rw [read, ← hsource]
    decide
  have sources : ⟨"/p/main.cpp"⟩ ∈ i.survey.sources.paths := by
    rw [mem_sources hwf absolute, files_sourceInput, read]
    exact ⟨List.mem_cons_self, by decide, rfl⟩
  exact ⟨sources, mem_unresolvedFor_of_reaches hwf absolute normal plain sources .source asks
    fun h => Bool.false_ne_true h.1⟩

theorem exists_directory_not_serves_of_blank :
    let i := sourceInput "#include < >\n".toUTF8
    ∃ directories,
      Synthesis.spec (.clang ⟨"clang"⟩ ⟨"clang++"⟩) i.root ⟨"/p/main.cpp"⟩ directories ∈
          Id.run (Synthesis.specs (.clang ⟨"clang"⟩ ⟨"clang++"⟩) i.survey.index none i.scan) ∧
        ∃ directory ∈ directories, ¬ Serves i directory := by
  intro i
  obtain ⟨sources, needed⟩ := blank_mem_unresolvedFor
  have listed :
      Synthesis.specFor (.clang ⟨"clang"⟩ ⟨"clang++"⟩) i.survey.index i.scan [] ⟨"/p/main.cpp"⟩ ∈
        Id.run (Synthesis.specs (.clang ⟨"clang"⟩ ⟨"clang++"⟩) i.survey.index none i.scan) :=
    Synthesis.specFor_mem_specs sources
  have absolute : (Path.mk "/p").isAbsolute = true := by decide
  obtain ⟨directories, hcommand, -, hserves⟩ :=
    exists_directories_of_mem_specs (wellFormed_sourceInput _) absolute _ _ listed
  refine ⟨directories, hcommand ▸ listed, ?_⟩
  by_contra all
  have serves : ∀ directory ∈ directories, Serves i directory :=
    fun directory h => by_contra fun hnot => all ⟨directory, h, hnot⟩
  rcases hserves.1 serves with notBlank | isRoot
  · exact notBlank needed
  · exact absurd isRoot (by decide)

/-- A directive without a name makes the command search its source. -/
theorem searches_source_of_blank :
    let i := sourceInput "#include < >\n".toUTF8
    ⟨"/p/main.cpp"⟩ ∈ i.files ∧
      ∃ command ∈ Id.run (Synthesis.specs (.clang ⟨"clang"⟩ ⟨"clang++"⟩) i.survey.index none i.scan),
        "-I/p/main.cpp" ∈ command.words := by
  intro i
  obtain ⟨sources, needed⟩ := blank_mem_unresolvedFor
  have counts : ⟨"/p/main.cpp"⟩ ∈ i.files := by
    rw [files_sourceInput]
    exact List.mem_cons_self
  have absolute : (Path.mk "/p").isAbsolute = true := by decide
  have itself := mem_searchDirectories_of_blank (wellFormed_sourceInput _) absolute needed counts
    (by decide)
  exact ⟨counts, _, Synthesis.specFor_mem_specs sources, Synthesis.searchFlag_mem_words itself⟩

end CompileTree.Survey
