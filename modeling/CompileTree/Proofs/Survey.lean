import CompileTree.Proofs.Files.Walk
import CompileTree.Proofs.Include.Walk
import CompileTree.Proofs.SuffixIndex.Lookup
import CompileTree.Survey

/-! # What a survey holds

A survey of files that are spelled from one root, each of them in one way, holds
the directives of every source and header that can be read, and its index answers
with the directories below the root that have a file as asked for.
-/

namespace CompileTree

open Files (Error)

namespace SuffixIndex

/-- A name that can be sought in an index: it has no separator at an end. -/
def IsProper (name : String) : Prop :=
  name ≠ "" ∧ name.toList.head? ≠ some '/' ∧ name.toList.getLast? ≠ some '/'

instance (name : String) : Decidable (IsProper name) := inferInstanceAs (Decidable (_ ∧ _))

theorem IsProper.asked {name : String} (h : IsProper name) : asked name = components name := if_neg h.1

theorem components_ne_nil (text : String) : components text ≠ [] := by
  have segmented := segments_ne_nil text
  rwa [segments_eq_components, ne_eq, List.reverse_eq_nil_iff] at segmented

/-- A name that is spelled from names has these as its components. -/
theorem components_intercalate {names : List String} (h : ∀ name ∈ names, Path.IsName name)
    (nonempty : names ≠ []) : components ("/".intercalate names) = names := by
  have plain : ∀ piece ∈ names.map String.toList, '/' ∉ piece := by
    simpa using fun name hname => (h name hname).2.1
  have split : ("/".intercalate names).toList.splitOn '/' = names.map String.toList := by
    rw [String.toList_intercalate]
    exact List.splitOn_intercalate _ plain (by simpa using nonempty)
  have counted :
      (names.map String.toList).dropLast.filter (· ≠ []) = (names.map String.toList).dropLast := by
    refine List.filter_eq_self.2 fun piece hpiece => ?_
    obtain ⟨name, hname, rfl⟩ := List.mem_map.1 (List.mem_of_mem_dropLast hpiece)
    simpa using (h name hname).1
  have last := List.getLast?_eq_some_getLast (l := names.map String.toList) (by simpa using nonempty)
  rw [components, split, counted, last, Option.toList_some, List.dropLast_append_getLast, List.map_map]
  exact (List.map_congr_left fun name _ => String.ofList_toList).trans (List.map_id names)

theorem isProper_intercalate {names : List String} (some : names ≠ [])
    (named : ∀ name ∈ names, Path.IsName name) : IsProper ("/".intercalate names) := by
  have outer : "/".intercalate names ≠ "" ∧ ("/".intercalate names).toList.getLast? ≠ Option.some '/' := by
    induction names with
    | nil => exact absurd rfl some
    | cons name names ih =>
        obtain ⟨hname, hnames⟩ := List.forall_mem_cons.1 named
        cases names with
        | nil => simpa using ⟨hname.1, fun slash => hname.2.1 (List.mem_of_getLast? slash)⟩
        | cons next names =>
            obtain ⟨nonblank, last⟩ := ih (List.cons_ne_nil next names) hnames
            have counted : ("/".intercalate (next :: names)).toList ≠ [] :=
              fun empty => nonblank (String.toList_eq_nil_iff.1 empty)
            rw [String.intercalate_cons_cons]
            simp only [String.toList_append, List.getLast?_append_of_ne_nil _ counted]
            refine ⟨?_, last⟩
            simp [nonblank]
  have relative := Path.relative_intercalate named
  rw [Path.isAbsolute, beq_eq_false_iff_ne] at relative
  exact ⟨outer.1, relative, outer.2⟩

theorem filterMap_ofPiece_names {pieces : List (List Char)}
    (h : ∀ name ∈ (pieces.filter (· ≠ [])).map String.ofList, Path.IsName name) :
    pieces.filterMap Path.Component.ofPiece =
      ((pieces.filter (· ≠ [])).map String.ofList).map Path.Component.name := by
  induction pieces with
  | nil => rfl
  | cons piece pieces ih =>
      by_cases empty : piece = []
      · subst empty
        exact ih h
      · rw [List.filter_cons_of_pos (by simpa using empty), List.map_cons] at h ⊢
        obtain ⟨hname, hnames⟩ := List.forall_mem_cons.1 h
        have counted := hname.ofPiece
        rw [String.toList_ofList] at counted
        rw [List.filterMap_cons_some counted, ih hnames, List.map_cons]

theorem added_eq_components {name : String} (h : ∀ n ∈ components name, Path.IsName n) :
    Path.added ⟨name⟩ = (components name).map .name := by
  obtain ⟨pieces, last, split⟩ :=
    (List.eq_nil_or_concat (name.toList.splitOn '/')).resolve_left (List.splitOn_ne_nil '/' _)
  have spelled : components name = (pieces.filter (· ≠ []) ++ [last]).map String.ofList := by
    simp [components, split]
  have nonempty : last ≠ [] := by
    rintro rfl
    exact (h "" (by simp [spelled])).1 rfl
  have counted : pieces.filter (· ≠ []) ++ [last] = (name.toList.splitOn '/').filter (· ≠ []) := by
    simp [split, nonempty]
  rw [counted] at spelled
  rw [spelled] at h ⊢
  exact filterMap_ofPiece_names h

/-- A query adds the components it asks for to the directory it is joined to. -/
theorem components_join_asked {p : Path} {name : String} (nonempty : p.chars ≠ [])
    (queried : name = "" ∨ IsProper name) (h : ∀ n ∈ asked name, Path.IsName n) :
    (p.join ⟨name⟩).components = p.components ++ (asked name).map .name := by
  rcases queried with rfl | proper
  · exact Path.components_join nonempty rfl
  · have relative : (Path.mk name).isAbsolute = false := by
      rw [Path.isAbsolute, beq_eq_false_iff_ne]
      exact proper.2.1
    rw [proper.asked] at h ⊢
    rw [Path.components_join nonempty relative, added_eq_components h]

end SuffixIndex

namespace Survey

section Read

variable {root : Path} {files : List Path} {bytes : Path → Except Error ByteArray}

/-- The sources and headers among some files. -/
def scanned (files : List Path) : List Path := files.filter fun p => p.isSource || p.isHeader

/-- The include directives in what was read. -/
def includes (read : Except Error ByteArray) : List Include.Directive :=
  match read with
  | .ok bytes => Include.directives (Text.Utf8.decodeLossy bytes)
  | .error _ => []

theorem directives_foldl (s : Survey) :
    (files.foldl (fun s p => s.addFile p (bytes p)) s).directives =
      s.directives.insertMany
        ((files.filter fun p => (bytes p).isOk).map fun p => (p, includes (bytes p))) := by
  induction files generalizing s with
  | nil => rfl
  | cons p files ih =>
      rw [List.foldl_cons, ih]
      cases h : bytes p with
      | ok read =>
          rw [List.filter_cons_of_pos (by rw [h]; rfl), List.map_cons, h]
          rfl
      | error e =>
          rw [List.filter_cons_of_neg (by rw [h]; exact Bool.false_ne_true)]
          rfl

theorem sources_foldl (s : Survey) :
    (files.foldl (fun s p => s.addFile p (bytes p)) s).sources =
      s.sources.insertMany
        ((files.filter fun p => (bytes p).isOk && p.isSource).map fun p => (p, ())) := by
  induction files generalizing s with
  | nil => rfl
  | cons p files ih =>
      rw [List.foldl_cons, ih]
      cases h : bytes p with
      | error e =>
          rw [List.filter_cons_of_neg (by rw [h]; exact Bool.false_ne_true)]
          rfl
      | ok read =>
          cases isSource : p.isSource with
          | true =>
              rw [List.filter_cons_of_pos (by rw [h, isSource]; rfl), addFile, readFile, isSource]
              rfl
          | false =>
              rw [List.filter_cons_of_neg (by rw [h, isSource]; exact Bool.false_ne_true), addFile,
                readFile, isSource]
              rfl

theorem index_ofFiles : (ofFiles root files bytes).index = indexFiles root files := by
  have kept : ∀ (read : List Path) (s : Survey),
      (read.foldl (fun s p => s.addFile p (bytes p)) s).index = s.index := by
    intro read
    induction read with
    | nil => exact fun _ => rfl
    | cons p read ih =>
        intro s
        rw [List.foldl_cons, ih]
        cases bytes p <;> rfl
  exact kept _ _

/-- Files of which each place is spelled in one way. -/
def Alike (files : List Path) : Prop := ∀ p ∈ files, ∀ q ∈ files, p.components = q.components → p = q

theorem Alike.filter (h : Alike files) (keep : Path → Bool) : Alike (files.filter keep) :=
  fun p hp q hq => h p (List.mem_of_mem_filter hp) q (List.mem_of_mem_filter hq)

theorem find?_same {p : Path} (alike : ∀ q ∈ files, q.components = p.components → q = p) :
    files.find? (·.same p) = if p ∈ files then some p else none := by
  cases h : files.find? (·.same p) with
  | none =>
      have absent : p ∉ files := fun hp => List.find?_eq_none.1 h p hp (Path.same_iff.2 rfl)
      rw [if_neg absent]
  | some q =>
      have hq := List.mem_of_find?_eq_some h
      have same : q.same p = true := by simpa using List.find?_some h
      obtain rfl := alike q hq (Path.same_iff.1 same)
      rw [if_pos hq]

/-- What is held of a place that some files are inserted for. -/
theorem get?_insertMany_map {α : Type} (f : Path → α) (p : Path) :
    ((Path.Table.empty : Path.Table α).insertMany (files.map fun q => (q, f q))).get? p =
      (files.reverse.find? (·.same p)).map f := by
  rw [Path.Table.get?_insertMany, ← List.map_reverse, List.find?_map, Option.map_map]
  exact Option.or_none

theorem mem_paths_insertMany_map {α : Type} (alike : Alike files) (f : Path → α) {p : Path} :
    p ∈ ((Path.Table.empty : Path.Table α).insertMany (files.map fun q => (q, f q))).paths ↔
      p ∈ files := by
  have known : ∀ q ∈ ((Path.Table.empty : Path.Table α).insertMany (files.map fun q => (q, f q))).paths,
      q ∈ files := by
    intro q hq
    rcases Path.Table.mem_paths_insertMany hq with hq | hq
    · simpa using hq
    · cases hq
  refine ⟨known p, fun hp => ?_⟩
  have found : (files.reverse.find? (·.same p)).isSome = true :=
    List.find?_isSome.2 ⟨p, List.mem_reverse.2 hp, Path.same_iff.2 rfl⟩
  rw [← Option.isSome_map (f := f), ← get?_insertMany_map f p] at found
  obtain ⟨q, hq, same⟩ := Path.Table.exists_mem_paths_iff.2 found
  exact alike q (known q hq) p hp same ▸ hq

variable (root files bytes) in
/-- The last file at a place that could be read says what its directives are. -/
theorem directivesOf_ofFiles_eq (f : Path) :
    Include.directivesOf (ofFiles root files bytes).directives.entries f =
      ((((scanned files).filter fun q => (bytes q).isOk).reverse.find? (·.same f)).map
        fun q => includes (bytes q)).getD [] := by
  have held : Include.directivesOf (ofFiles root files bytes).directives.entries f =
      ((ofFiles root files bytes).directives.get? f).getD [] := rfl
  rw [held, ofFiles, directives_foldl]
  exact congrArg (·.getD []) (get?_insertMany_map (fun q => includes (bytes q)) f)

/-- What the survey holds of a file's directives are those in what was read of it. -/
theorem directivesOf_ofFiles (alike : Alike files) {p : Path} (hp : p ∈ scanned files) :
    Include.directivesOf (ofFiles root files bytes).directives.entries p = includes (bytes p) := by
  rw [directivesOf_ofFiles_eq, find?_same]
  · split
    · rfl
    · next unread =>
        cases h : bytes p with
        | error => rfl
        | ok read =>
            refine absurd ?_ unread
            rw [List.mem_reverse, List.mem_filter, h]
            exact ⟨hp, rfl⟩
  · intro q hq
    exact alike.filter _ q (List.mem_of_mem_filter (List.mem_reverse.1 hq)) p hp

/-- Only sources and headers have directives. -/
theorem exists_scanned_of_mem_directivesOf {f : Path} {d : Include.Directive}
    (h : d ∈ Include.directivesOf (ofFiles root files bytes).directives.entries f) :
    ∃ p ∈ scanned files, p.components = f.components ∧ d ∈ includes (bytes p) := by
  rw [directivesOf_ofFiles_eq] at h
  cases found : (((scanned files).filter fun q => (bytes q).isOk).reverse.find? (·.same f)) with
  | none =>
      rw [found] at h
      cases h
  | some p =>
      rw [found] at h
      have same : p.same f = true := by simpa using List.find?_some found
      have hp := List.mem_reverse.1 (List.mem_of_find?_eq_some found)
      exact ⟨p, List.mem_of_mem_filter hp, Path.same_iff.1 same, h⟩

/-- The sources of a survey are those that can be read. -/
theorem mem_sources_ofFiles (alike : Alike files) {p : Path} :
    p ∈ (ofFiles root files bytes).sources.paths ↔
      p ∈ files ∧ p.isSource = true ∧ (bytes p).isOk = true := by
  rw [ofFiles, sources_foldl]
  refine (mem_paths_insertMany_map ((alike.filter _).filter _) fun _ => ()).trans ?_
  simp only [List.mem_filter, Bool.and_eq_true, Bool.or_eq_true]
  grind

end Read

/-- A source of a scan needs search directories for the names that its survey says. -/
theorem scan_unresolvedFor (s : Survey) (isFile : Path → Bool) (root : Path) {p : Path}
    (h : p ∈ s.sources.paths) : (s.scan isFile root).unresolvedFor p = s.unresolved isFile p := by
  obtain ⟨_, hv⟩ := Path.Table.get?_mapWithPath (f := fun p _ => s.unresolved isFile p) h
  rw [Scan.unresolvedFor, scan, hv, Option.getD_some]

/-! ## The index -/

section Index

open SuffixIndex

variable {root directory : Path} {files : List Path} {name : String}

/-- Files that are found by names from a root. -/
def Spelled (root : Path) (files : List Path) : Prop :=
  ∀ p ∈ files, ∃ names, p = root.descend names ∧ ∀ name ∈ names, Path.IsName name

theorem Spelled.filter (h : Spelled root files) (keep : Path → Bool) :
    Spelled root (files.filter keep) :=
  fun p hp => h p (List.mem_of_mem_filter hp)

theorem spelled_filesWithin {t : Files.Tree} (hwf : t.WellFormed) (working : Files.Location)
    (root : Path) (followLinks : Bool) (depth : Nat) :
    Spelled root (t.filesWithin working root followLinks depth) := by
  intro p hp
  obtain ⟨names, rfl, known⟩ := Files.Tree.exists_names hp
  refine ⟨names, rfl, fun name hname => ?_⟩
  obtain ⟨e, he, hmem⟩ := known name hname
  exact hwf.named e he name hmem

theorem spelled_files {t : Files.Tree} (hwf : t.WellFormed) (working : Files.Location) (root : Path)
    (followLinks : Bool) : Spelled root (t.files working root followLinks) :=
  spelled_filesWithin hwf working root followLinks t.walkDepth

theorem indexFiles_eq :
    indexFiles root files =
      ofNames ((files.filterMap root.relativeName?).map fun file => (file, root.text)) := by
  rw [indexFiles, ofNames, List.foldl_map]

theorem mem_relativeNames (nonempty : root.chars ≠ []) (spelled : Spelled root files) {file : String} :
    file ∈ files.filterMap root.relativeName? ↔
      ∃ names, names ≠ [] ∧ (∀ name ∈ names, Path.IsName name) ∧ root.descend names ∈ files ∧
        "/".intercalate names = file := by
  rw [List.mem_filterMap]
  constructor
  · rintro ⟨p, hp, hfile⟩
    obtain ⟨names, rfl, proper⟩ := spelled p hp
    rw [Path.relativeName?_descend nonempty proper] at hfile
    split at hfile
    · cases hfile
    · next some => exact ⟨names, some, proper, hp, Option.some.inj hfile⟩
  · rintro ⟨names, some, proper, hp, rfl⟩
    refine ⟨_, hp, ?_⟩
    rw [Path.relativeName?_descend nonempty proper, if_neg some]

/-- Going down from the root by some directories and the components asked for leads
    to a file. -/
def Completes (root : Path) (files : List Path) (name : String) (dirs : List String) : Prop :=
  dirs ++ asked name ≠ [] ∧ (∀ n ∈ dirs ++ asked name, Path.IsName n) ∧
    root.descend (dirs ++ asked name) ∈ files

section Completes

variable {dirs : List String} (h : Completes root files name dirs)
include h

theorem Completes.named : ∀ n ∈ dirs, Path.IsName n := fun n hn => h.2.1 n (List.mem_append_left _ hn)

theorem Completes.components_descend (nonempty : root.chars ≠ []) :
    (root.descend (dirs ++ asked name)).components =
      (root.descend dirs).components ++ (asked name).map .name := by
  rw [Path.components_descend nonempty h.2.1, Path.components_descend nonempty h.named,
    List.map_append, List.append_assoc]

/-- A query leads from the directory that completes it to the file. -/
theorem Completes.components_join (nonempty : root.chars ≠ []) (queried : name = "" ∨ IsProper name) :
    ((root.descend dirs).join ⟨name⟩).components = (root.descend (dirs ++ asked name)).components := by
  rw [h.components_descend nonempty]
  exact components_join_asked (Path.descend_chars_ne_nil nonempty) queried
    fun n hn => h.2.1 n (List.mem_append_right _ hn)

end Completes

/-- The index answers a query that touches no separator with directories in an order
    of their own: those from which a file is found by the components asked for. -/
theorem directories_indexFiles (nonempty : root.chars ≠ []) (spelled : Spelled root files)
    (inside : name.toList.head? ≠ some '/' ∧ name.toList.getLast? ≠ some '/') :
    ∃ places : List (List String),
      (indexFiles root files).directories name = places.map root.descend ∧
      (places.map List.reverse).Pairwise (· < ·) ∧
      ∀ dirs, dirs ∈ places ↔ Completes root files name dirs := by
  obtain ⟨answers, hchains, hordered, hanswers⟩ := lookup_ofNames_eq_map
    ((files.filterMap root.relativeName?).map fun file => (file, root.text)) inside
  have completed : ∀ dirs mark, ⟨dirs.reverse, mark⟩ ∈ answers ↔
      mark = root.text ∧ Completes root files name dirs := by
    intro dirs mark
    rw [hanswers]
    constructor
    · rintro ⟨file, hfile, hcomponents⟩
      obtain ⟨file, hmem, heq⟩ := List.mem_map.1 hfile
      cases heq
      obtain ⟨names, some, proper, hp, rfl⟩ := (mem_relativeNames nonempty spelled).1 hmem
      rw [components_intercalate proper some] at hcomponents
      subst hcomponents
      exact ⟨rfl, some, proper, hp⟩
    · rintro ⟨rfl, some, proper, hp⟩
      have named := (mem_relativeNames nonempty spelled).2 ⟨_, some, proper, hp, rfl⟩
      exact ⟨_, List.mem_map_of_mem named, components_intercalate proper some⟩
  have marked : ∀ e ∈ answers, e.mark = root.text := by
    intro e he
    have here := completed e.pieces.reverse e.mark
    rw [List.reverse_reverse] at here
    exact (here.1 he).1
  refine ⟨answers.map fun e => e.pieces.reverse, ?_, ?_, fun dirs => ?_⟩
  · rw [directories, indexFiles_eq, hchains, List.map_map, List.map_map]
    refine List.map_congr_left fun e he => ?_
    change Path.ofChain e.chain = _
    rw [Entry.chain, marked e he, Path.ofChain_cons]
    rfl
  · rw [List.map_map]
    refine List.pairwise_map.2 (hordered.imp_of_mem fun he hf before => ?_)
    simp only [Function.comp_apply, List.reverse_reverse]
    rcases before with before | ⟨-, before⟩
    · exact before
    · rw [marked _ he, marked _ hf] at before
      exact absurd before (String.lt_irrefl _)
  · rw [List.mem_map]
    constructor
    · rintro ⟨e, he, rfl⟩
      refine ((completed e.pieces.reverse e.mark).1 ?_).2
      rwa [List.reverse_reverse]
    · intro hdirs
      exact ⟨_, (completed dirs root.text).2 ⟨rfl, hdirs⟩, List.reverse_reverse dirs⟩

theorem directories_touching {index : SuffixIndex} (nonblank : name ≠ "")
    (inside : ¬ (name.toList.head? ≠ some '/' ∧ name.toList.getLast? ≠ some '/')) :
    index.directories name = [] := by
  rw [directories, lookup_touching nonblank (by tauto), List.map_nil]

/-- The index answers a query with the directories from which a file is found by the
    components asked for. -/
theorem mem_directories_indexFiles (nonempty : root.chars ≠ []) (spelled : Spelled root files) :
    directory ∈ (indexFiles root files).directories name ↔
      (name = "" ∨ IsProper name) ∧
        ∃ dirs, Completes root files name dirs ∧ directory = root.descend dirs := by
  by_cases inside : name.toList.head? ≠ some '/' ∧ name.toList.getLast? ≠ some '/'
  · have queried : name = "" ∨ IsProper name := by
      rw [IsProper]
      tauto
    obtain ⟨places, found, -, hplaces⟩ := directories_indexFiles nonempty spelled inside
    rw [found, List.mem_map]
    simp only [hplaces, queried, true_and]
    exact exists_congr fun dirs => and_congr_right fun _ => eq_comm
  · have nonblank : name ≠ "" := by
      rintro rfl
      exact inside ⟨by simp, by simp⟩
    rw [directories_touching nonblank inside]
    constructor
    · rintro ⟨⟩
    · rintro ⟨blank | proper, -⟩
      · exact absurd blank nonblank
      · exact absurd proper.2 inside

/-- The directories with which an index answers are different places. -/
theorem pairwise_directories (nonempty : root.chars ≠ []) (spelled : Spelled root files) :
    ((indexFiles root files).directories name).Pairwise fun p q => p.components ≠ q.components := by
  by_cases inside : name.toList.head? ≠ some '/' ∧ name.toList.getLast? ≠ some '/'
  · obtain ⟨places, found, ordered, hplaces⟩ := directories_indexFiles nonempty spelled inside
    rw [found, List.pairwise_map]
    refine (List.pairwise_map.1 ordered).imp_of_mem fun ha hb before same => ?_
    obtain rfl := Path.descend_injective nonempty ((hplaces _).1 ha).named ((hplaces _).1 hb).named same
    exact List.lt_irrefl _ before
  · have nonblank : name ≠ "" := by
      rintro rfl
      exact inside ⟨by simp, by simp⟩
    rw [directories_touching nonblank inside]
    exact .nil

/-- The chains of an index spell the files strictly below the root. -/
theorem mem_chains (nonempty : root.chars ≠ []) (spelled : Spelled root files) :
    p ∈ (indexFiles root files).chains.map Path.ofChain ↔
      p ∈ files ∧ root.components <+: p.components ∧ root.components ≠ p.components := by
  rw [← directories_blank, mem_directories_indexFiles nonempty spelled]
  constructor
  · rintro ⟨-, dirs, ⟨some, named, hp⟩, rfl⟩
    rw [asked, if_pos rfl, List.append_nil] at some named hp
    rw [Path.components_descend nonempty named]
    exact ⟨hp, List.prefix_append _ _, fun same => some (by simpa using same)⟩
  · rintro ⟨hp, -, apart⟩
    obtain ⟨names, rfl, named⟩ := spelled p hp
    have some : names ≠ [] := by
      rintro rfl
      exact apart rfl
    refine ⟨.inl rfl, names, ?_, rfl⟩
    rw [Completes, asked, if_pos rfl, List.append_nil]
    exact ⟨some, named, hp⟩

/-- Names that are put together are answered with the directories at which they name a
    file. -/
theorem mem_directories_intercalate (nonempty : root.chars ≠ []) (spelled : Spelled root files)
    (some : names ≠ []) (named : ∀ name ∈ names, Path.IsName name) :
    directory ∈ (indexFiles root files).directories ("/".intercalate names) ↔
      (∃ dirs, (∀ name ∈ dirs, Path.IsName name) ∧ directory = root.descend dirs) ∧
        directory.join ⟨"/".intercalate names⟩ ∈ files := by
  have proper := isProper_intercalate some named
  have spelt : asked ("/".intercalate names) = names := by
    rw [proper.asked, components_intercalate named some]
  rw [mem_directories_indexFiles nonempty spelled]
  constructor
  · rintro ⟨-, dirs, ⟨-, hnames, hp⟩, rfl⟩
    rw [spelt] at hnames hp
    refine ⟨⟨dirs, fun name h => hnames name (List.mem_append_left _ h), rfl⟩, ?_⟩
    rw [Path.join_intercalate named some, ← Path.descend_append]
    exact hp
  · rintro ⟨⟨dirs, hdirs, rfl⟩, hp⟩
    rw [Path.join_intercalate named some, ← Path.descend_append] at hp
    refine ⟨.inr proper, dirs, ?_, rfl⟩
    rw [Completes, spelt]
    refine ⟨List.append_ne_nil_of_right_ne_nil _ some, fun name h => ?_, hp⟩
    exact (List.mem_append.1 h).elim (hdirs name) (named name)

end Index

/-! ## Walks -/

section Walk

variable {root : Path} {filter : Filter} {walked : List Path} {bytes : Path → Except Error ByteArray}

/-- Whatever was indexed before, the index holds the files of the walk. -/
theorem refill_eq_indexFiles (index : SuffixIndex) :
    index.refill root filter walked = indexFiles root (walked.filter filter.includes) := by
  rw [SuffixIndex.refill, SuffixIndex.clear, indexFiles, List.foldl_filterMap, List.foldl_filter]
  congr
  funext index p
  rw [SuffixIndex.visit]
  cases root.relativeName? p <;> rfl

/-- A file of a walk is indexed if the filter includes it, and one that may be a source
    or a header is read at once. -/
def visit (root : Path) (filter : Filter) (bytes : Path → Except Error ByteArray) (s : Survey)
    (p : Path) : Survey :=
  if filter.includes p then
    let s := match root.relativeName? p with
      | some name => { s with index := s.index.insert name root.text }
      | none => s
    if p.isSource || p.isHeader then s.addFile p (bytes p) else s
  else s

theorem visit_of_reads (s : Survey) {p : Path} (reads : filter.includes p ∧ (p.isSource || p.isHeader)) :
    visit root filter bytes s p =
      { s.addFile p (bytes p) with index := SuffixIndex.visit root filter s.index p } := by
  rw [visit, SuffixIndex.visit, if_pos reads.1, if_pos reads.1]
  cases root.relativeName? p <;> cases bytes p <;> simp [reads.2, addFile, readFile]

theorem visit_of_not_reads (s : Survey) {p : Path}
    (reads : ¬ (filter.includes p ∧ (p.isSource || p.isHeader))) :
    visit root filter bytes s p = { s with index := SuffixIndex.visit root filter s.index p } := by
  rw [visit, SuffixIndex.visit]
  split
  · next included =>
      rw [not_and] at reads
      cases root.relativeName? p <;> simp [reads included]
  · rfl

theorem addFile_withIndex (s : Survey) (index : SuffixIndex) (p : Path)
    (read : Except Error ByteArray) :
    addFile { s with index } p read = { s.addFile p read with index } := by
  cases read <;> rfl

/-- Reading the files between indexing them comes to indexing them all at first. -/
theorem foldl_visit_eq (s : Survey) :
    walked.foldl (visit root filter bytes) s =
      (scanned (walked.filter filter.includes)).foldl (fun s p => s.addFile p (bytes p))
        { s with index := walked.foldl (SuffixIndex.visit root filter) s.index } := by
  induction walked generalizing s with
  | nil => rfl
  | cons p walked ih =>
      rw [List.foldl_cons, List.foldl_cons, ih]
      by_cases reads : filter.includes p ∧ (p.isSource || p.isHeader)
      · have read : scanned ((p :: walked).filter filter.includes) =
            p :: scanned (walked.filter filter.includes) := by
          rw [List.filter_cons_of_pos reads.1]
          exact List.filter_cons_of_pos reads.2
        rw [read, List.foldl_cons, addFile_withIndex, visit_of_reads s reads]
      · have skipped : scanned ((p :: walked).filter filter.includes) =
            scanned (walked.filter filter.includes) := by
          rw [scanned, scanned, List.filter_filter, List.filter_filter, List.filter_cons_of_neg]
          simpa [and_comm] using reads
        rw [skipped, visit_of_not_reads s reads]

theorem foldl_visit : walked.foldl (visit root filter bytes) .empty =
    ofFiles root (walked.filter filter.includes) bytes := by
  rw [foldl_visit_eq, ofFiles, ← refill_eq_indexFiles .empty]
  rfl

end Walk

end Survey

end CompileTree
