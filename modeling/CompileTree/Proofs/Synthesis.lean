import CompileTree.Proofs.SourceKind
import CompileTree.Text.NameSet
import CompileTree.Synthesis
import Mathlib.Data.List.Nodup

/-! # What commands are made of

Every source of a scan has one command. Its directories are those its names were
found in, then those offered for the names that were not found, and every place among
them is searched once: looking all names up before the resolver is asked, and adding
its answers afterwards, comes to going through the names of each source alone.
-/

namespace CompileTree

/-! ## Directories without repetition -/

namespace Path

/-- Keep a path unless its place is kept already. -/
def addPlace (kept : List Path) (p : Path) : List Path :=
  if kept.any (·.same p) then kept else kept ++ [p]

theorem distinct_eq_foldl (paths : List Path) : distinct paths = paths.foldl addPlace [] := rfl

theorem same_comm (p q : Path) : p.same q = q.same p := by
  rw [Bool.eq_iff_iff, same_iff, same_iff, eq_comm]

theorem any_same_addPlace (kept : List Path) (p q : Path) :
    (addPlace kept p).any (·.same q) = (kept.any (·.same q) || p.same q) := by
  rw [addPlace]
  split
  · next known =>
      obtain ⟨r, hr, alike⟩ := List.any_eq_true.1 known
      rw [Bool.eq_iff_iff, Bool.or_eq_true, iff_self_or]
      intro again
      exact List.any_eq_true.2 ⟨r, hr, same_iff.2 ((same_iff.1 alike).trans (same_iff.1 again))⟩
  · simp

theorem foldl_addPlace (paths kept : List Path) :
    paths.foldl addPlace kept =
      kept ++ (paths.filter fun p => !kept.any (·.same p)).eraseDupsBy same := by
  induction paths generalizing kept with
  | nil => simp
  | cons p paths ih =>
      rw [List.foldl_cons, ih]
      simp only [any_same_addPlace]
      rw [addPlace]
      split
      · next known =>
          -- Keeping a place again changes nothing, so neither does it in the filter.
          rw [List.filter_cons_of_neg (by simpa using known)]
          congr 2
          refine List.filter_congr fun q _ => ?_
          rw [← any_same_addPlace, addPlace, if_pos known]
      · next unknown =>
          rw [List.filter_cons_of_pos (by simpa using unknown), List.eraseDupsBy_cons,
            List.filter_filter, List.append_assoc, List.singleton_append]
          congr 3
          refine List.filter_congr fun q _ => ?_
          rw [same_comm q p]
          cases p.same q <;> simp

/-- The first path of every place is kept. -/
theorem distinct_eq_eraseDupsBy (paths : List Path) : distinct paths = paths.eraseDupsBy same := by
  rw [distinct_eq_foldl, foldl_addPlace]
  simp

theorem distinct_eq_nil {paths : List Path} : distinct paths = [] ↔ paths = [] := by
  rw [distinct_eq_eraseDupsBy]
  cases paths <;> simp [List.eraseDupsBy_cons]

/-- Keeping paths adds some of them, and one for every place. -/
theorem foldl_distinct (paths kept : List Path) :
    ∃ new, paths.foldl addPlace kept = kept ++ new ∧
      (∀ q ∈ new, q ∈ paths) ∧ ∀ p ∈ paths, ∃ q ∈ kept ++ new, q.components = p.components := by
  induction paths generalizing kept with
  | nil => exact ⟨[], by simp, by simp, by simp⟩
  | cons p paths ih =>
      rw [List.foldl_cons, addPlace]
      split
      · next known =>
          obtain ⟨new, hnew, hfrom, hall⟩ := ih kept
          obtain ⟨q, hq, same⟩ := List.any_eq_true.1 known
          have listed : ∃ q ∈ kept ++ new, q.components = p.components :=
            ⟨q, List.mem_append_left _ hq, same_iff.1 same⟩
          exact ⟨new, hnew, fun q hq => List.mem_cons_of_mem _ (hfrom q hq),
            List.forall_mem_cons.2 ⟨listed, hall⟩⟩
      · obtain ⟨new, hnew, hfrom, hall⟩ := ih (kept ++ [p])
        rw [List.append_assoc, List.singleton_append] at hnew hall
        have from' : ∀ q ∈ p :: new, q ∈ p :: paths :=
          List.forall_mem_cons.2 ⟨List.mem_cons_self, fun q hq => List.mem_cons_of_mem _ (hfrom q hq)⟩
        exact ⟨p :: new, hnew, from', List.forall_mem_cons.2 ⟨⟨p, by simp, rfl⟩, hall⟩⟩

theorem mem_of_mem_distinct {paths : List Path} {p : Path} (h : p ∈ distinct paths) : p ∈ paths := by
  obtain ⟨new, hnew, hfrom, -⟩ := foldl_distinct paths []
  rw [distinct_eq_foldl, hnew, List.nil_append] at h
  exact hfrom p h

/-- A place among the first paths keeps a spelling from among them. -/
theorem exists_mem_distinct_append {paths more : List Path} {p : Path} (h : p ∈ paths) :
    ∃ q ∈ distinct (paths ++ more), q ∈ paths ∧ q.components = p.components := by
  obtain ⟨new, hnew, hfrom, hall⟩ := foldl_distinct paths []
  obtain ⟨later, hlater, -, -⟩ := foldl_distinct more new
  rw [List.nil_append] at hnew hall
  obtain ⟨q, hq, same⟩ := hall p h
  refine ⟨q, ?_, hfrom q hq, same⟩
  rw [distinct_eq_foldl, List.foldl_append, hnew, hlater]
  exact List.mem_append_left _ hq

end Path

/-! ## Gathering directories -/

namespace Synthesis

variable {compiler : Compiler} {index : SuffixIndex} {scan : Scan} {offers : Offers}

/-- The places that were seen are those of the directories. -/
def Gathered.Aligned (g : Gathered) : Prop :=
  ∀ p, (g.seen.get? p).isSome = g.directories.any (·.same p)

section Gathering

variable {g : Gathered} {directories : List Path}

theorem aligned_empty : Gathered.empty.Aligned := fun _ => rfl

theorem aligned_ofDirectories : (Gathered.ofDirectories directories).Aligned := by
  intro p
  change ((Path.Table.empty.insertMany (directories.map (·, ()))).get? p).isSome = directories.any (·.same p)
  have unknown : (Path.Table.empty : Path.Places).get? p = none := rfl
  rw [Path.Table.get?_insertMany, unknown, Option.or_none, Option.isSome_map, Bool.eq_iff_iff,
    List.find?_isSome, List.any_eq_true]
  simp

theorem Gathered.Aligned.add (h : g.Aligned) (directory : Path) :
    (g.add directory).Aligned ∧ (g.add directory).directories = Path.addPlace g.directories directory := by
  rw [Gathered.add, Path.addPlace, h directory]
  split
  · exact ⟨h, rfl⟩
  · refine ⟨fun p => ?_, rfl⟩
    rw [Path.Table.get?_insert, apply_ite Option.isSome, h p, List.any_append]
    by_cases same : directory.components = p.components <;> simp [Path.same, same]

theorem Gathered.Aligned.addAll (h : g.Aligned) (directories : List Path) :
    (g.addAll directories).Aligned ∧
      (g.addAll directories).directories = directories.foldl Path.addPlace g.directories := by
  induction directories generalizing g with
  | nil => exact ⟨h, rfl⟩
  | cons directory directories ih =>
      obtain ⟨aligned, added⟩ := h.add directory
      obtain ⟨all, total⟩ := ih aligned
      rw [added] at total
      exact ⟨all, total⟩

end Gathering

/-! ## The names of one source -/

section Names

variable (index : SuffixIndex) (offers : Offers) (names : List String)

/-- The names that the tree does not have. -/
def missing : List String := names.filter fun n => (index.directories n).isEmpty

/-- The search directories for a list of names. -/
def searchDirectories : List Path :=
  Path.distinct
    (names.flatMap index.directories ++
      (missing index names).flatMap fun n => (offers.lookup n).getD [])

theorem foldl_lookUp (g : Gathered) (before : List String) :
    names.foldl (lookUp index) (g, before) =
      (g.addAll (names.flatMap index.directories), before ++ missing index names) := by
  induction names generalizing g before with
  | nil => simp [missing, Gathered.addAll]
  | cons name names ih =>
      rw [List.foldl_cons, lookUp, List.flatMap_cons, missing]
      split
      · next none =>
          rw [ih, none, List.nil_append, List.filter_cons_of_pos (by rw [none]; rfl), ← missing,
            List.append_assoc, List.singleton_append]
      · next directories some =>
          have kept : ¬ (index.directories name).isEmpty := by simpa using some
          have filtered := List.filter_cons_of_neg (l := names)
            (p := fun n => (index.directories n).isEmpty) kept
          rw [ih, filtered, ← missing, Gathered.addAll, Gathered.addAll, Gathered.addAll,
            List.foldl_append]

theorem resolved_eq :
    resolved index names = ⟨Path.distinct (names.flatMap index.directories), missing index names⟩ := by
  rw [resolved, foldl_lookUp, List.nil_append]
  congr 1
  exact (aligned_empty.addAll _).2

/-- Looking all names up and then adding what is offered searches every place once. -/
theorem searched_resolved :
    (resolved index names).searched offers = searchDirectories index offers names := by
  have flat : ∀ g : Gathered, (missing index names).foldl (Gathered.addOffered offers) g =
      g.addAll ((missing index names).flatMap fun n => (offers.lookup n).getD []) := fun g => by
    rw [Gathered.addAll, List.foldl_flatMap]
    rfl
  -- Both passes are one fold: the second starts from what the first one kept.
  rw [resolved_eq, Resolved.searched, flat, (aligned_ofDirectories.addAll _).2, searchDirectories]
  exact List.foldl_append.symm

theorem directories_resolved :
    (resolved index names).directories = searchDirectories index [] names := by
  have nothing : ((missing index names).flatMap fun n => ((([] : Offers).lookup n).getD [])) = [] := by
    simp
  rw [resolved_eq, searchDirectories, nothing, List.append_nil]

end Names

/-! ## The commands of a scan -/

variable (index scan) in
/-- The names that the tree does not have, over all sources. -/
def allMissing : List String :=
  Text.nameSet (scan.sources.paths.flatMap fun s => missing index (scan.unresolvedFor s))

variable (compiler index scan offers) in
/-- The command for a source of a scan, given what is offered. -/
def specFor (s : Path) : Spec :=
  spec compiler scan.root s (searchDirectories index offers (scan.unresolvedFor s))

/-- The resolver is asked once, for all names that the tree does not have. -/
theorem specs_some {m : Type → Type} [Monad m] (resolve : Resolver m) :
    specs compiler index (some resolve) scan = do
      let offers ← resolve (allMissing index scan)
      return scan.sources.paths.map (specFor compiler index scan offers) := by
  simp only [specs, List.map_map, List.flatMap_map, Function.comp_def, searched_resolved]
  simp only [resolved_eq]
  rfl

theorem specs_none {m : Type → Type} [Monad m] :
    specs compiler index (none : Option (Resolver m)) scan =
      pure (scan.sources.paths.map (specFor compiler index scan [])) := by
  simp only [specs, List.map_map, Function.comp_def, directories_resolved]
  rfl

theorem specFor_mem_specs {s : Path} (h : s ∈ scan.sources.paths) :
    specFor compiler index scan [] s ∈ Id.run (specs compiler index none scan) := by
  rw [specs_none]
  exact List.mem_map_of_mem h

/-- With the answer of the resolver, if there is one, every source has its command. -/
theorem specs_eq_ok {ε : Type} {resolver : Option (Resolver (Except ε))}
    (answers : ∀ resolve ∈ resolver, resolve (allMissing index scan) = .ok offers) :
    specs compiler index resolver scan = .ok (scan.sources.paths.map
      (specFor compiler index scan (if resolver.isSome then offers else []))) := by
  cases resolver with
  | none => exact specs_none
  | some resolve =>
      rw [specs_some, answers resolve rfl]
      rfl

/-- What the resolver is asked for is what some source needs and the tree does not have. -/
theorem mem_allMissing {name : String} :
    name ∈ allMissing index scan ↔
      ∃ s ∈ scan.sources.paths, name ∈ scan.unresolvedFor s ∧ index.directories name = [] := by
  rw [allMissing, Text.mem_nameSet, List.mem_flatMap]
  simp only [missing, List.mem_filter, List.isEmpty_iff]

/-- A source has one command. -/
theorem filter_file_map {command : Path → Spec} (own : ∀ s, (command s).file = s) {s : Path}
    (h : s ∈ scan.sources.paths) :
    (scan.sources.paths.map command).filter (·.file = s) = [command s] := by
  have same : ((fun command : Spec => decide (command.file = s)) ∘ command) = (· == s) := by
    funext p
    rw [Function.comp_apply, own]
    rfl
  have once : scan.sources.paths.count s = 1 := by
    rw [(Path.Table.nodup_paths scan.sources).count, if_pos h]
  rw [List.filter_map, same, List.filter_beq, once]
  rfl

theorem searchFlag_mem_words {root s directory : Path} {directories : List Path}
    (h : directory ∈ directories) :
    compiler.searchFlag directory ∈ (spec compiler root s directories).words := by
  have flagged := List.mem_map_of_mem (f := compiler.searchFlag) h
  simp only [spec, List.mem_append]
  exact .inl (.inl (.inr flagged))

variable (compiler index scan offers) in
/-- The command for a source, written out: its words are how a command for such a file
    starts, a flag for the first spelling of every directory, the declared output, and
    the source. -/
def commandFor (s : Path) : Spec :=
  let names := scan.unresolvedFor s
  let found := names.flatMap index.directories
  let offered := (names.filter (index.directories · = [])).flatMap fun n => (offers.lookup n).getD []
  let output := s.text ++ ".o"
  { directory := scan.root
    file := s
    words :=
      (if ".c".toList <:+ s.chars ∨ ".C".toList <:+ s.chars then compiler.cStart else compiler.cxxStart) ++
      ((found ++ offered).eraseDupsBy Path.same).map compiler.searchFlag ++
      compiler.outputFlags output ++ [s.text]
    output }

theorem specFor_eq_commandFor :
    specFor compiler index scan offers = commandFor compiler index scan offers := by
  funext s
  have start : (if s.isC then compiler.cStart else compiler.cxxStart) =
      if ".c".toList <:+ s.chars ∨ ".C".toList <:+ s.chars then compiler.cStart else compiler.cxxStart :=
    if_congr Path.isC_iff rfl rfl
  have lacking : missing index (scan.unresolvedFor s) =
      (scan.unresolvedFor s).filter (index.directories · = []) :=
    List.filter_congr fun n _ => by rw [Bool.eq_iff_iff, List.isEmpty_iff, decide_eq_true_iff]
  rw [specFor, spec, searchDirectories, Path.distinct_eq_eraseDupsBy, start, lacking]
  rfl

/-- The resolver is asked once, for the set of the names that the index has no directory
    for; if it fails, so does the whole. Otherwise there is one command for every
    source, in the order of their paths, and it is as written out. -/
theorem run_specs {m : Type → Type} [Monad m] {ε : Type} (compiler : Compiler) (index : SuffixIndex)
    (resolver : Option (Resolver (ExceptT ε m))) (scan : Scan) :
    ∃ names : List String, names.Pairwise (· < ·) ∧
      (∀ n, n ∈ names ↔
        ∃ s ∈ scan.sources.paths, n ∈ scan.unresolvedFor s ∧ index.directories n = []) ∧
      scan.sources.paths.Pairwise (compare · · = .lt) ∧
      (specs compiler index resolver scan).run =
        match resolver with
        | none => pure (.ok (scan.sources.paths.map (commandFor compiler index scan [])))
        | some resolve => do
          match ← (resolve names).run with
          | .ok offers => return .ok (scan.sources.paths.map (commandFor compiler index scan offers))
          | .error e => return .error e := by
  refine ⟨allMissing index scan, Text.pairwise_nameSet _, fun n => mem_allMissing, ?_, ?_⟩
  · exact List.pairwise_map.2 scan.sources.sorted
  · simp only [← specFor_eq_commandFor]
    cases resolver with
    | none => rw [specs_none]; rfl
    | some resolve =>
        rw [specs_some, ExceptT.run_bind]
        refine bind_congr fun answer => ?_
        cases answer <;> rfl

end Synthesis

end CompileTree
