import CompileTree.Proofs.Survey
import CompileTree.Proofs.Synthesis
import CompileTree.SystemIncludes
import Mathlib

/-! # What system directories offer

A resolver gathers what it finds for all names together, directory by directory. What
it offers for a name does not depend on the others: it is what the indexes of the
directories answer, unless the name stands in one of the directories itself. So the
command for a source is the same whether the resolver is asked for the names of all
sources at once or for those of this source alone.
-/

namespace CompileTree

open Files

/-! ## Tasks that only tell -/

namespace Task

variable {ε : Type}

/-- Telling lines succeeds, and only writes. -/
theorem run_forIn_say {α : Type} (line : α → String) (items : List α) (m : Machine) :
    ∃ told, (forIn items PUnit.unit fun a _ => do
        Task.say (line a)
        pure (ForInStep.yield PUnit.unit) : Task ε PUnit).run.run m =
      (.ok PUnit.unit, { m with written := m.written ++ told }) := by
  induction items generalizing m with
  | nil => exact ⟨[], by rw [List.append_nil]; rfl⟩
  | cons a items ih =>
      let first : OutputStream × ByteArray := (.output, (line a ++ "\n").toUTF8)
      obtain ⟨told, h⟩ := ih { m with written := m.written ++ [first] }
      rw [List.append_assoc, List.singleton_append] at h
      refine ⟨first :: told, ?_⟩
      rw [List.forIn_cons]
      exact h

end Task

namespace SystemIncludes

/-! ## Findings of one name -/

section Findings

variable {name : String}

/-- The directories that were found for a name. -/
def directoriesFor (name : String) (found : List Finding) : List Path :=
  found.filterMap fun f => if f.1 = name then some f.2 else none

theorem directoriesFor_append (found more : List Finding) :
    directoriesFor name (found ++ more) = directoriesFor name found ++ directoriesFor name more :=
  List.filterMap_append

theorem directoriesFor_cons (f : Finding) (found : List Finding) :
    directoriesFor name (f :: found) =
      if f.1 = name then f.2 :: directoriesFor name found else directoriesFor name found := by
  by_cases own : f.1 = name <;> simp [directoriesFor, own]

theorem directoriesFor_map (n : String) (directories : List Path) :
    directoriesFor name (directories.map (n, ·)) = if n = name then directories else [] := by
  by_cases own : n = name <;> simp [directoriesFor, own]

theorem any_directoriesFor (found : List Finding) (p : Path) :
    (directoriesFor name found).any (·.same p) = found.any fun g => g.1 == name && g.2.same p := by
  induction found with
  | nil => rfl
  | cons g found ih =>
      rw [directoriesFor_cons, List.any_cons, ← ih]
      by_cases own : g.1 = name <;> simp [own]

/-- A finding adds its place to those of its own name, and to no others. -/
theorem directoriesFor_addFinding (found : List Finding) (f : Finding) :
    directoriesFor name (addFinding found f) =
      if f.1 = name then Path.addPlace (directoriesFor name found) f.2 else directoriesFor name found := by
  have added : directoriesFor name (found ++ [f]) =
      if f.1 = name then directoriesFor name found ++ [f.2] else directoriesFor name found := by
    rw [directoriesFor_append, directoriesFor_cons]
    by_cases own : f.1 = name <;> simp [own, directoriesFor]
  rw [addFinding, apply_ite (directoriesFor name), added]
  by_cases own : f.1 = name
  · rw [if_pos own, if_pos own, Path.addPlace, any_directoriesFor, own]
  · rw [if_neg own, if_neg own, ite_self]

theorem directoriesFor_foldl (new found : List Finding) :
    directoriesFor name (new.foldl addFinding found) =
      (directoriesFor name new).foldl Path.addPlace (directoriesFor name found) := by
  induction new generalizing found with
  | nil => rfl
  | cons f new ih =>
      rw [List.foldl_cons, ih, directoriesFor_addFinding, directoriesFor_cons]
      by_cases own : f.1 = name
      · rw [if_pos own, if_pos own, List.foldl_cons]
      · rw [if_neg own, if_neg own]

/-- Names without repetition are each found once. -/
theorem directoriesFor_flatMap (found : String → List Path) {names : List String} (once : names.Nodup) :
    directoriesFor name (names.flatMap fun n => (found n).map (n, ·)) =
      if name ∈ names then found name else [] := by
  induction names with
  | nil => rfl
  | cons n names ih =>
      obtain ⟨new, once⟩ := List.nodup_cons.1 once
      rw [List.flatMap_cons, directoriesFor_append, directoriesFor_map, ih once]
      by_cases own : n = name
      · subst own
        rw [if_pos rfl, if_neg new, List.append_nil, if_pos List.mem_cons_self]
      · rw [if_neg own, List.nil_append]
        exact if_congr (by simp [Ne.symm own]) rfl rfl

/-- Of names without repetition, each has what the indexes have for it alone. -/
theorem directoriesFor_findings (indexes : List SuffixIndex) {names : List String}
    (once : names.Nodup) (h : name ∈ names) :
    directoriesFor name (findings indexes names) =
      Path.distinct (indexes.flatMap (·.directories name)) := by
  have all : directoriesFor name
      (indexes.flatMap fun i => names.flatMap fun n => (i.directories n).map (n, ·)) =
        indexes.flatMap (·.directories name) := by
    rw [directoriesFor, List.filterMap_flatMap]
    refine List.flatMap_congr fun i _ => ?_
    rw [← directoriesFor, directoriesFor_flatMap i.directories once, if_pos h]
  rw [findings, directoriesFor_foldl, all]
  rfl

end Findings

/-! ## The index of a directory -/

section Indexes

open SuffixIndex

variable {t : Tree} {working : Location} {directory place : Path} {name : String} {names : List String}

/-- The names that lead from a directory to a file that its index has: one not too many
    levels down, reached without following links, that the filter includes. -/
structure Indexed (t : Tree) (working : Location) (directory : Path) (names : List String) : Prop where
  walked : Tree.Walked t working false directory names
  few : names.length ≤ indexDepth
  included : (Filter.everything directory).includes (directory.descend names) = true

theorem Indexed.chars_ne_nil (h : Indexed t working directory names) : directory.chars ≠ [] := by
  cases h.walked with
  | file opened | inside opened => exact Tree.chars_ne_nil_of_entry opened

/-- The index of a directory answers with the directories below it from which a name
    leads to an indexed file. -/
theorem mem_directories_index (hwf : t.WellFormed) :
    place ∈ (index t working directory).directories name ↔
      (name = "" ∨ IsProper name) ∧
        ∃ dirs, Indexed t working directory (dirs ++ asked name) ∧ place = directory.descend dirs := by
  by_cases nonempty : directory.chars ≠ []
  · have spelled := (Survey.spelled_filesWithin hwf working directory false indexDepth).filter
      (Filter.everything directory).includes
    rw [index, Survey.mem_directories_indexFiles nonempty spelled]
    refine and_congr_right fun _ => exists_congr fun dirs => and_congr_left fun _ => ?_
    rw [Survey.Completes, List.mem_filter]
    constructor
    · rintro ⟨some, named, found, included⟩
      obtain ⟨few, walked⟩ := (Tree.descend_mem_filesWithin hwf nonempty some named).1 found
      exact ⟨walked, few, included⟩
    · rintro ⟨walked, few, included⟩
      have named := walked.named hwf
      have some : dirs ++ asked name ≠ [] := fun none => by
        rw [none] at walked
        cases walked
      exact ⟨some, named, (Tree.descend_mem_filesWithin hwf nonempty some named).2 ⟨few, walked⟩,
        included⟩
  · obtain rfl : directory = ⟨""⟩ := by
      cases directory
      simpa [Path.chars] using nonempty
    have nothing : index t working ⟨""⟩ = .empty := rfl
    rw [nothing, directories_empty]
    refine iff_of_false List.not_mem_nil ?_
    rintro ⟨-, dirs, indexed, -⟩
    exact indexed.chars_ne_nil rfl

/-- From a directory with which an index answers, the name leads to an indexed file. -/
theorem exists_indexed_of_mem_directories (hwf : t.WellFormed)
    (h : place ∈ (index t working directory).directories name) :
    ∃ names, Indexed t working directory names ∧
      (place.join ⟨name⟩).same (directory.descend names) = true := by
  obtain ⟨queried, dirs, indexed, rfl⟩ := (mem_directories_index hwf).1 h
  refine ⟨_, indexed, Path.same_iff.2 ?_⟩
  have named := indexed.walked.named hwf
  rw [components_join_asked (Path.descend_chars_ne_nil indexed.chars_ne_nil) queried
      fun n hn => named n (List.mem_append_right _ hn),
    Path.components_descend indexed.chars_ne_nil named,
    Path.components_descend indexed.chars_ne_nil fun n hn => named n (List.mem_append_left _ hn),
    List.map_append, List.append_assoc]

end Indexes

/-! ## Offers for one name -/

section Offering

variable (t : Tree) (working : Location) (directories : List Path)

/-- Directories offered for names. -/
def offered (names : List String) : Synthesis.Offers :=
  let (names, found) := search t working directories names
  offers names found

/-- Directories offered for one name: none if it stands in a directory itself. -/
def offeredFor (name : String) : List Path :=
  if directories.any fun d => t.isFile working (d.join ⟨name⟩) then []
  else Path.distinct (directories.flatMap fun d => (index t working d).directories name)

theorem offers_cons (name : String) (names : List String) (found : List Finding) :
    offers (name :: names) found =
      if directoriesFor name found = [] then offers names found
      else (name, directoriesFor name found) :: offers names found := by
  cases h : directoriesFor name found <;> rw [directoriesFor] at h <;> simp [offers, h]

theorem lookup_offers {names : List String} {found : List Finding} {name : String} :
    ((offers names found).lookup name).getD [] =
      if name ∈ names then directoriesFor name found else [] := by
  induction names with
  | nil => rfl
  | cons n names ih =>
      rw [offers_cons]
      -- A name for which nothing was found has no offer, nor has a later entry for it.
      by_cases own : name = n
      · subst own
        rw [if_pos List.mem_cons_self]
        split
        · next none =>
            rw [ih, none, ite_self]
        · rw [List.lookup_cons_self, Option.getD_some]
      · have apart : (name == n) = false := beq_eq_false_iff_ne.2 own
        rw [if_congr (List.mem_cons.trans (or_iff_right own)) rfl rfl, ← ih]
        split
        · rfl
        · rw [List.lookup_cons, apart]

theorem offered_eq (names : List String) :
    offered t working directories names =
      let names := pending (t.isFile working) directories names
      offers names (findings (directories.map (index t working)) names) := by
  rw [offered, search]
  cases pending (t.isFile working) directories names <;> rfl

theorem mem_pending {isFile : Path → Bool} {names : List String} {name : String} :
    name ∈ pending isFile directories names ↔
      name ∈ names ∧ (directories.any fun d => isFile (d.join ⟨name⟩)) = false := by
  rw [pending, List.mem_filter, Bool.not_eq_true']

/-- What is found for a name does not depend on the other names: the early ends of a
    search are those at which none of its names has anything to be offered. -/
theorem directoriesFor_pending {names : List String} (once : names.Nodup) {name : String}
    (h : name ∈ names) :
    let sought := pending (t.isFile working) directories names
    (if name ∈ sought then directoriesFor name (findings (directories.map (index t working)) sought)
      else []) = offeredFor t working directories name := by
  intro sought
  have soughtOnce : sought.Nodup := once.filter _
  rw [offeredFor]
  split
  · next lacking =>
      obtain ⟨-, nowhere⟩ := (mem_pending directories).1 lacking
      rw [directoriesFor_findings _ soughtOnce lacking, List.flatMap_map, nowhere,
        if_neg Bool.false_ne_true]
  · next absent =>
      have direct : (directories.any fun d => t.isFile working (d.join ⟨name⟩)) = true :=
        Bool.of_not_eq_false fun nowhere => absent ((mem_pending directories).2 ⟨h, nowhere⟩)
      rw [if_pos direct]

theorem lookup_offered {names : List String} (once : names.Nodup) {name : String} (h : name ∈ names) :
    ((offered t working directories names).lookup name).getD [] =
      offeredFor t working directories name := by
  rw [offered_eq]
  dsimp only
  rw [lookup_offers, directoriesFor_pending t working directories once h]

/-- What is offered: a name has all that was found for it, unless that is nothing. -/
theorem mem_offers {names : List String} {found : List Finding} {name : String} {places : List Path} :
    (name, places) ∈ offers names found ↔
      name ∈ names ∧ places = directoriesFor name found ∧ places ≠ [] := by
  induction names with
  | nil => simp [offers]
  | cons n names ih =>
      rw [offers_cons]
      split
      · next none => grind
      · next some => grind

theorem sublist_offers (names : List String) (found : List Finding) :
    ((offers names found).map (·.1)).Sublist names := by
  induction names with
  | nil => exact .slnil
  | cons n names ih =>
      rw [offers_cons]
      split
      · exact ih.cons n
      · exact ih.cons_cons n

/-- Of names without repetition, each is offered what there is for it alone, unless that
    is nothing. -/
theorem mem_offered {names : List String} (once : names.Nodup) {name : String} {places : List Path} :
    (name, places) ∈ offered t working directories names ↔
      name ∈ names ∧ places = offeredFor t working directories name ∧ places ≠ [] := by
  have alone := fun h : name ∈ names => directoriesFor_pending t working directories once h
  rw [offered_eq]
  dsimp only at alone ⊢
  rw [mem_offers]
  constructor
  · rintro ⟨sought, rfl, some⟩
    have h := ((mem_pending directories).1 sought).1
    rw [← alone h, if_pos sought]
    exact ⟨h, rfl, some⟩
  · rintro ⟨h, rfl, some⟩
    have sought : name ∈ pending (t.isFile working) directories names := by
      by_contra absent
      rw [← alone h, if_neg absent] at some
      exact some rfl
    rw [← alone h, if_pos sought] at some ⊢
    exact ⟨sought, rfl, some⟩

theorem sublist_offered (names : List String) :
    ((offered t working directories names).map (·.1)).Sublist names := by
  rw [offered_eq]
  exact (sublist_offers _ _).trans List.filter_sublist

theorem offeredFor_ne_nil {name : String} : offeredFor t working directories name ≠ [] ↔
    (∀ d ∈ directories, t.isFile working (d.join ⟨name⟩) = false) ∧
      ∃ d ∈ directories, (index t working d).directories name ≠ [] := by
  rw [offeredFor]
  split
  · next direct =>
      obtain ⟨d, hd, here⟩ := List.any_eq_true.1 direct
      refine iff_of_false (fun some => some rfl) fun ⟨nowhere, _⟩ => ?_
      rw [nowhere d hd] at here
      cases here
  · next nowhere =>
      rw [List.any_eq_true, not_exists] at nowhere
      rw [ne_eq, Path.distinct_eq_nil, List.flatMap_eq_nil_iff]
      push Not
      exact (and_iff_right fun d hd => Bool.eq_false_iff.2 fun here => nowhere d ⟨hd, here⟩).symm

end Offering

/-! ## Resolving -/

/-- A header below a system directory. -/
def systemTree : Tree :=
  ((Tree.empty.put ["inc"] .directory).put ["inc", "sub"] .directory).put ["inc", "sub", "x.h"]
    (.file .empty false)

theorem isFile_systemTree : systemTree.isFile [] ⟨"/inc/x.h"⟩ = false := by
  have direct : Files.steps "/inc/x.h" = ["inc", "x.h"] := by decide
  rw [Tree.isFile, Tree.entry, Tree.locate_rooted (by decide) (by decide) (by decide), direct]
  cbv

theorem filesWithin_systemTree :
    systemTree.filesWithin [] ⟨"/inc"⟩ false indexDepth = [⟨"/inc/sub/x.h"⟩] := by
  have inc : ∀ b, systemTree.entry [] b ⟨"/inc"⟩ = .ok (["inc"], .directory) := by
    intro b
    have one : Files.steps "/inc" = ["inc"] := by decide
    rw [Tree.entry, Tree.locate_rooted (by decide) (by decide) (by decide), one]
    cases b <;> cbv
  have sub : systemTree.entry [] true ⟨"/inc/sub"⟩ = .ok (["inc", "sub"], .directory) := by
    have two : Files.steps "/inc/sub" = ["inc", "sub"] := by decide
    rw [Tree.entry, Tree.locate_rooted (by decide) (by decide) (by decide), two]
    cbv
  have below : systemTree.filesBelow [] false 3 ⟨"/inc/sub"⟩ [["inc"]] = [⟨"/inc/sub/x.h"⟩] := by
    rw [Tree.filesBelow_of_directory sub]
    rfl
  rw [Tree.filesWithin, inc, inc]
  simp only
  rw [indexDepth, Tree.filesBelow_of_directory (inc true)]
  exact congrArg (· ++ []) below

theorem offeredFor_systemTree :
    offeredFor systemTree [] [⟨"/inc"⟩] "x.h" = [⟨"/inc/sub"⟩] := by
  have place : (Path.mk "/inc").join ⟨"x.h"⟩ = ⟨"/inc/x.h"⟩ := by decide
  rw [offeredFor, List.any_cons, place, isFile_systemTree, List.flatMap_singleton, index,
    filesWithin_systemTree]
  decide

theorem wellFormed_systemTree : systemTree.WellFormed :=
  ((Tree.wellFormed_empty.put (by decide)).put (by decide)).put (by decide)

theorem directories_index_systemTree :
    (index systemTree [] ⟨"/inc"⟩).directories "x.h" = [⟨"/inc/sub"⟩] ∧
      (index systemTree [] ⟨"/inc"⟩).directories "y.h" = [] := by
  rw [index, filesWithin_systemTree]
  decide

section Resolving

variable {ε : Type} (m : Machine) (directories : List Path) (verbose : Bool)

/-- Resolving succeeds, and only writes. -/
theorem run_resolve (names : List String) :
    ∃ told, (resolve directories verbose names : Task ε Synthesis.Offers).run.run m =
      (.ok (offered m.files m.working directories names), { m with written := m.written ++ told }) := by
  have asked := Task.run_ask (ε := ε) (fun t working => search t working directories names) m
  rw [resolve.eq_def]
  cases verbose with
  | false => exact ⟨[], by rw [List.append_nil]; exact Task.run_bind_ok asked⟩
  | true =>
      let found := (search m.files m.working directories names).2
      obtain ⟨told, h⟩ := Task.run_forIn_say (ε := ε)
        (fun f : Finding => "   + " ++ f.1 ++ " -> " ++ f.2.text) found m
      refine ⟨told, (Task.run_bind_ok asked).trans ?_⟩
      exact Task.run_bind_ok h

end Resolving

/-! ## Commands -/

section Commands

variable {ε : Type} (m : Machine) (directories : List Path) (verbose : Bool)
  (compiler : Compiler) (known : SuffixIndex) (scan : Scan)

/-- The command for a source, made of nothing but its own names. -/
def commandAlone (t : Tree) (working : Location) (root : Path) (names : List String) (s : Path) : Spec :=
  Synthesis.spec compiler root s
    (Path.distinct
      (names.flatMap known.directories ++
        (Synthesis.missing known names).flatMap (offeredFor t working directories)))

theorem specFor_offered (t : Tree) (working : Location) {s : Path} (h : s ∈ scan.sources.paths) :
    Synthesis.specFor compiler known scan
        (offered t working directories (Synthesis.allMissing known scan)) s =
      commandAlone directories compiler known t working scan.root (scan.unresolvedFor s) s := by
  have asked : ∀ n ∈ Synthesis.missing known (scan.unresolvedFor s),
      n ∈ Synthesis.allMissing known scan :=
    fun n hn => Text.mem_nameSet.2 (List.mem_flatMap.2 ⟨s, h, hn⟩)
  rw [Synthesis.specFor, Synthesis.searchDirectories, commandAlone]
  congr 3
  exact List.flatMap_congr fun n hn =>
    lookup_offered t working directories (Text.nodup_nameSet _) (asked n hn)

/-- The command that every source gets is the one it has alone. -/
theorem run_resolved_specs :
    ∃ told, (Synthesis.specs compiler known (some (resolve directories verbose)) scan :
        Task ε (List Spec)).run.run m =
      (.ok (scan.sources.paths.map fun s => commandAlone directories compiler known m.files m.working
          scan.root (scan.unresolvedFor s) s),
        { m with written := m.written ++ told }) := by
  obtain ⟨told, h⟩ := run_resolve (ε := ε) m directories verbose (Synthesis.allMissing known scan)
  have alone := List.map_congr_left fun s hs =>
    specFor_offered directories compiler known scan m.files m.working (s := s) hs
  refine ⟨told, ?_⟩
  rw [Synthesis.specs_some, ← alone]
  exact Task.run_bind_ok h

end Commands

end SystemIncludes

/-! ## Sources alone -/

/-- A scan cut down to one source. -/
def Scan.only (scan : Scan) (s : Path) : Scan :=
  { root := scan.root
    sources := .ofList [(s, ())]
    unresolved := .ofList [(s, scan.unresolvedFor s)] }

theorem Scan.unresolvedFor_only (scan : Scan) (s : Path) :
    (scan.only s).unresolvedFor s = scan.unresolvedFor s := by
  have own : (Path.Table.ofList [(s, scan.unresolvedFor s)]).get? s = some (scan.unresolvedFor s) :=
    Path.Table.get?_insert.trans (if_pos rfl)
  rw [unresolvedFor, only, own, Option.getD_some]

namespace SystemIncludes

/-- Sources do not interfere: the command for one of them is the only command that
    there is when the scan is cut down to it, on any machine with the same files. -/
theorem specs_only {ε : Type} (compiler : Compiler) (known : SuffixIndex) (directories : List Path)
    (verbose : Bool) (scan : Scan) (m : Machine) {s : Path} (h : s ∈ scan.sources.paths) :
    ∃ commands command,
      ((Synthesis.specs compiler known (some (resolve directories verbose)) scan :
        Task ε (List Spec)).run.run m).1 = .ok commands ∧
      commands.filter (·.file = s) = [command] ∧
      ∀ m' : Machine, m'.files = m.files → m'.working = m.working →
        ((Synthesis.specs compiler known (some (resolve directories verbose)) (scan.only s) :
          Task ε (List Spec)).run.run m').1 = .ok [command] := by
  obtain ⟨_, whole⟩ := run_resolved_specs (ε := ε) m directories verbose compiler known scan
  refine ⟨_, commandAlone directories compiler known m.files m.working scan.root (scan.unresolvedFor s) s,
    congrArg Prod.fst whole, ?_, fun m' files working => ?_⟩
  · exact Synthesis.filter_file_map (fun _ => rfl) h
  · obtain ⟨_, alone⟩ :=
      run_resolved_specs (ε := ε) m' directories verbose compiler known (scan.only s)
    have names : (scan.only s).unresolvedFor s = scan.unresolvedFor s := scan.unresolvedFor_only s
    have own : (scan.only s).sources.paths = [s] := rfl
    rw [own, List.map_singleton, names, files, working] at alone
    exact congrArg Prod.fst alone

/-- Two sources that need different names. -/
def twoSources : Scan where
  root := ⟨"/p"⟩
  sources := .ofList [(⟨"/p/b.cc"⟩, ()), (⟨"/p/a.c"⟩, ())]
  unresolved := .ofList [(⟨"/p/a.c"⟩, ["x.h"]), (⟨"/p/b.cc"⟩, ["y.h", "x.h"])]

theorem specs_only_twoSources :
    let m : Machine := ⟨systemTree, [], [], 0, 0, 0, []⟩
    let specsOf (scan : Scan) : Task Failure (List Spec) :=
      Synthesis.specs (.clang ⟨"clang"⟩ ⟨"clang++"⟩) .empty (some (resolve [⟨"/inc"⟩] false)) scan
    ⟨"/p/a.c"⟩ ∈ twoSources.sources.paths ∧ ⟨"/p/b.cc"⟩ ∈ twoSources.sources.paths ∧
      ∃ commands command,
        ((specsOf twoSources).run.run m).1 = .ok commands ∧
        commands.filter (·.file = ⟨"/p/a.c"⟩) = [command] ∧
        ((specsOf (twoSources.only ⟨"/p/a.c"⟩)).run.run m).1 = .ok [command] ∧
        "-I/inc/sub" ∈ command.words := by
  intro m specsOf
  have sources : ⟨"/p/a.c"⟩ ∈ twoSources.sources.paths ∧ ⟨"/p/b.cc"⟩ ∈ twoSources.sources.paths := by
    decide
  obtain ⟨commands, command, whole, own, alone⟩ := specs_only (ε := Failure)
    (.clang ⟨"clang"⟩ ⟨"clang++"⟩) .empty [⟨"/inc"⟩] false twoSources m sources.1
  have single := alone m rfl rfl
  refine ⟨sources.1, sources.2, commands, command, whole, own, single, ?_⟩
  obtain ⟨_, run⟩ := run_resolved_specs (ε := Failure) m [⟨"/inc"⟩] false
    (.clang ⟨"clang"⟩ ⟨"clang++"⟩) .empty (twoSources.only ⟨"/p/a.c"⟩)
  have same : command = commandAlone [⟨"/inc"⟩] (.clang ⟨"clang"⟩ ⟨"clang++"⟩) .empty systemTree []
      ⟨"/p"⟩ ((twoSources.only ⟨"/p/a.c"⟩).unresolvedFor ⟨"/p/a.c"⟩) ⟨"/p/a.c"⟩ :=
    List.singleton_inj.1 (Except.ok.inj (single.symm.trans (congrArg Prod.fst run)))
  have names : twoSources.unresolvedFor ⟨"/p/a.c"⟩ = ["x.h"] := by decide
  have searched : ⟨"/inc/sub"⟩ ∈ Path.distinct
      ((["x.h"].flatMap SuffixIndex.empty.directories) ++
        (Synthesis.missing .empty ["x.h"]).flatMap (offeredFor systemTree [] [⟨"/inc"⟩])) := by
    have missing : Synthesis.missing .empty ["x.h"] = ["x.h"] := by decide
    rw [missing, List.flatMap_singleton, List.flatMap_singleton, offeredFor_systemTree]
    decide
  rw [same, Scan.unresolvedFor_only, names]
  exact Synthesis.searchFlag_mem_words searched

end SystemIncludes

end CompileTree
