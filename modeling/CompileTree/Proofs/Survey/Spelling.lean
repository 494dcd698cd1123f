import CompileTree.Proofs.Survey.SearchDirectories

/-! # Surveys of one directory under several spellings

A survey keeps the files of a tree as they are spelled from its root, whereas the include
walk looks for headers by their normal form. The two agree below a root whose spelling is
direct: one that has the components of its normal form. Below any other root a source
asks for the names of its own text only, and the headers that it finds in the tree are not
followed (`scan_of_spellings`, `header_missed_of_dotted`). What else a scan shows, the
filter's verdicts and the sources, is the same for all spellings of one normal form.
-/

namespace CompileTree

open Files (Error Location Tree)

/-! ## Walks that meet nothing -/

namespace Include

variable {isFile : Path → Bool} {index index' : SuffixIndex}
  {unread unread' : List (Path × List Directive)} {names : List String} {queue queue' : List Path}

/-- A walk finds nothing more when no file of its queue was read. -/
theorem walk_of_apart
    (apart : ∀ file ∈ queue, ∀ e ∈ unread, e.1.components ≠ file.components) :
    walk isFile index unread names queue = names := by
  induction queue with
  | nil => rw [walk]
  | cons file queue ih =>
      obtain ⟨hfile, hqueue⟩ := List.forall_mem_cons.1 apart
      rw [walk]
      split
      · exact ih hqueue
      · next p directives rest found =>
          obtain ⟨before, after, rfl, -, same, -⟩ := pull?_eq_some found
          exact absurd same (hfile _ (by simp))

/-- All files to which directives lead are spelled in normal form. -/
theorem normal_of_mem_followed {directory file : Path} {directives : List Directive}
    (h : file ∈ (directives.map (follow isFile index directory)).flatMap (·.1)) :
    file.normal = file := by
  rw [List.flatMap_map, List.mem_flatMap] at h
  obtain ⟨d, -, h⟩ := h
  rw [follow] at h
  split at h
  · rw [List.mem_singleton.1 h, sibling, Path.normal_normal]
  · obtain ⟨place, -, rfl⟩ := List.mem_map.1 h
    rw [sibling, Path.normal_normal]

/-- Where nothing that was read is spelled in normal form, a source has its own names only. -/
theorem unresolved_of_apart {table : DirectiveTable} {source : Path}
    (apart : ∀ file : Path, file.normal = file →
      ∀ e ∈ table.entries, e.1.components ≠ file.components) :
    unresolved isFile index table source = (requested isFile table.entries source).eraseDups := by
  rw [unresolved, walk]
  split
  · next missed =>
      rw [walk, requested, directivesOf_eq_nil (pull?_eq_none missed)]
      rfl
  · next p directives rest found =>
      have left : ∀ e ∈ rest, e ∈ table.entries := by
        obtain ⟨before, after, entries, rfl, -, -⟩ := pull?_eq_some found
        intro e he
        rw [entries]
        grind
      rw [walk_of_apart fun file hfile e he =>
          apart file (normal_of_mem_followed (by simpa using hfile)) e (left e he),
        foldl_addName, filterMap_followed (directivesOf_of_pull found), addNames_eq]
      simp

/-! ## Walks that meet the same places -/

/-- Entries for the same places, with the same directives. -/
abbrev Alike : List (Path × List Directive) → List (Path × List Directive) → Prop :=
  List.Forall₂ fun a b => a.1.components = b.1.components ∧ a.2 = b.2

/-- Paths for the same places. -/
abbrev SamePlaces : List Path → List Path → Prop :=
  List.Forall₂ fun p q => p.components = q.components

theorem Alike.pull? (h : Alike unread unread') {p q : Path} (same : p.components = q.components) :
    (Include.pull? p unread = none ∧ Include.pull? q unread' = none) ∨
      ∃ e rest e' rest', Include.pull? p unread = some (e, rest) ∧
        Include.pull? q unread' = some (e', rest') ∧ e.2 = e'.2 ∧ Alike rest rest' := by
  induction h with
  | nil => exact .inl ⟨rfl, rfl⟩
  | @cons a b unread unread' hab hrest ih =>
      rw [Include.pull?, Include.pull?]
      have alike : b.1.same q = a.1.same p := by rw [Path.same, Path.same, same, hab.1]
      rw [alike]
      cases a.1.same p with
      | true => exact .inr ⟨a, unread, b, unread', rfl, rfl, hab.2, hrest⟩
      | false =>
          rcases ih with ⟨hp, hq⟩ | ⟨e, rest, e', rest', hp, hq, directives, left⟩
          · exact .inl ⟨by simp [hp], by simp [hq]⟩
          · exact .inr ⟨e, a :: rest, e', b :: rest', by simp [hp], by simp [hq], directives,
              .cons hab left⟩

theorem follow_of_samePlaces
    (places : ∀ name, SamePlaces (index.directories name) (index'.directories name))
    {file file' : Path} (same : file.components = file'.components) :
    follow isFile index file.directory = follow isFile index' file'.directory := by
  funext d
  have beside : sibling file.directory d.name = sibling file'.directory d.name :=
    Path.normal_directory_join_congr same
  have below : (index.directories d.name).map (sibling · d.name) =
      (index'.directories d.name).map (sibling · d.name) := by
    have joined := (places d.name).imp fun p q same =>
      show sibling p d.name = sibling q d.name from Path.normal_join_congr same
    have mapped := List.forall₂_map_left_iff.2 (List.forall₂_map_right_iff.2 joined)
    rwa [List.forall₂_eq_eq_eq] at mapped
  rw [follow, follow, beside, below]

theorem walk_of_alike
    (places : ∀ name, SamePlaces (index.directories name) (index'.directories name))
    (hunread : Alike unread unread') (hqueue : SamePlaces queue queue') :
    walk isFile index unread names queue = walk isFile index' unread' names queue' := by
  fun_induction walk isFile index unread names queue generalizing unread' queue' with
  | case1 =>
      cases hqueue
      rw [walk]
  | case2 unread names file queue missed ih =>
      cases hqueue with
      | @cons _ file' _ queue' same hqueue =>
          rcases hunread.pull? same with ⟨-, hpull⟩ | ⟨e, rest, e', rest', found, -⟩
          · conv_rhs => rw [walk]
            split
            · exact ih hunread hqueue
            · next found => cases hpull.symm.trans found
          · cases missed.symm.trans found
  | case3 unread names file queue p directives rest pulled steps =>
      rename_i ih
      cases hqueue with
      | @cons _ file' _ queue' same hqueue =>
          rcases hunread.pull? same with ⟨missed, -⟩ | ⟨e, left, e', left', found, hpull, read, hleft⟩
          · cases pulled.symm.trans missed
          · cases pulled.symm.trans found
            conv_rhs => rw [walk]
            split
            · next missed => cases hpull.symm.trans missed
            · next found =>
                cases hpull.symm.trans found
                obtain rfl : directives = _ := read
                simp only [← follow_of_samePlaces places same]
                refine ih hleft (List.rel_append hqueue ?_)
                exact List.forall₂_same.2 fun _ _ => rfl

theorem alike_insertEntry (h : Alike unread unread') {p q : Path} (same : p.components = q.components)
    (directives : List Directive) :
    Alike (Path.Table.insertEntry p directives unread) (Path.Table.insertEntry q directives unread') := by
  induction h with
  | nil => exact .cons ⟨same, rfl⟩ .nil
  | @cons a b unread unread' hab hrest ih =>
      have order : compare q b.1 = compare p a.1 := by
        change compare q.components b.1.components = compare p.components a.1.components
        rw [same, hab.1]
      rw [Path.Table.insertEntry_cons, Path.Table.insertEntry_cons, order]
      cases compare p a.1 with
      | lt => exact .cons ⟨same, rfl⟩ (.cons hab hrest)
      | eq => exact .cons ⟨hab.1, rfl⟩ hrest
      | gt => exact .cons hab ih

theorem Alike.insertMany {table table' : DirectiveTable} {new new' : List (Path × List Directive)}
    (h : Alike table.entries table'.entries) (hnew : Alike new new') :
    Alike (table.insertMany new).entries (table'.insertMany new').entries := by
  induction hnew generalizing table table' with
  | nil => exact h
  | @cons a b new new' hab _ ih =>
      have inserted : Alike (table.insert a.1 a.2).entries (table'.insert b.1 b.2).entries := by
        rw [← hab.2]
        exact alike_insertEntry h hab.1 a.2
      exact ih inserted

end Include

theorem Filter.includes_congr {f : Filter} {p q : Path} (same : p.normal = q.normal) :
    f.includes p = f.includes q := by
  have text := congrArg Path.chars same
  rw [Path.chars_normal, Path.chars_normal] at text
  rw [includes, includes, text]

theorem Filter.ofText_congr {root root' : Path} (same : root.normal = root'.normal) (text : String) :
    ofText root text = ofText root' text := by
  have spelled := congrArg Path.chars same
  rw [Path.chars_normal, Path.chars_normal] at spelled
  rw [ofText, ofText, spelled]

namespace Survey

/-! ## Files that are found by the same names -/

section Names

/-- Names under which files are found below a directory. -/
structure FileNames (N : List (List String)) : Prop where
  some : ∀ names ∈ N, names ≠ []
  named : ∀ names ∈ N, ∀ name ∈ names, Path.IsName name
  plain : ∀ names ∈ N, ∀ name ∈ names, '\\' ∉ name.toList

variable {N : List (List String)} {r r' : Path} {names : List String} {name : String}
  {bytes : Path → Except Error ByteArray} {isFile : Path → Bool}
  (hN : FileNames N) (hr : r.chars ≠ []) (hr' : r'.chars ≠ [])
include hN hr

theorem descend_mem_map (named : ∀ name ∈ names, Path.IsName name) :
    r.descend names ∈ N.map r.descend ↔ names ∈ N := by
  refine ⟨fun h => ?_, List.mem_map_of_mem⟩
  obtain ⟨more, hmore, same⟩ := List.mem_map.1 h
  rwa [← Path.descend_injective hr (hN.named more hmore) named (congrArg Path.components same)]

theorem alike_descend : Alike (N.map r.descend) := by
  intro p hp q hq same
  obtain ⟨names, hnames, rfl⟩ := List.mem_map.1 hp
  obtain ⟨more, hmore, rfl⟩ := List.mem_map.1 hq
  rw [Path.descend_injective hr (hN.named names hnames) (hN.named more hmore) same]

omit hr in
theorem spelled_descend : Spelled r (N.map r.descend) := by
  intro p hp
  obtain ⟨names, hnames, rfl⟩ := List.mem_map.1 hp
  exact ⟨names, rfl, hN.named names hnames⟩

theorem completes_descend {dirs : List String} : Completes r (N.map r.descend) name dirs ↔
    dirs ++ SuffixIndex.asked name ∈ N := by
  constructor
  · rintro ⟨-, named, hp⟩
    exact (descend_mem_map hN hr named).1 hp
  · intro h
    exact ⟨hN.some _ h, hN.named _ h, List.mem_map_of_mem h⟩

include hr' in
/-- Indexes of files under the same names answer alike. -/
theorem exists_directories_descend (name : String) :
    ∃ places : List (List String), (∀ dirs ∈ places, ∀ n ∈ dirs, Path.IsName n) ∧
      (indexFiles r (N.map r.descend)).directories name = places.map r.descend ∧
      (indexFiles r' (N.map r'.descend)).directories name = places.map r'.descend := by
  by_cases inside : name.toList.head? ≠ some '/' ∧ name.toList.getLast? ≠ some '/'
  · obtain ⟨places, found, ordered, hplaces⟩ := directories_indexFiles hr (spelled_descend hN) inside
    obtain ⟨places', found', ordered', hplaces'⟩ :=
      directories_indexFiles hr' (spelled_descend hN) inside
    have reversed : places.map List.reverse = places'.map List.reverse := by
      refine ordered.eq_of_mem_iff ordered' fun dirs => ?_
      simp only [List.mem_map, hplaces, hplaces', completes_descend hN hr, completes_descend hN hr']
    obtain rfl := List.map_injective_iff.2 List.reverse_injective reversed
    exact ⟨places, fun dirs h => ((hplaces dirs).1 h).named, found, found'⟩
  · have nonblank : name ≠ "" := by
      rintro rfl
      exact inside ⟨by simp, by simp⟩
    refine ⟨[], by simp, ?_, ?_⟩ <;> rw [directories_touching nonblank inside] <;> rfl

variable (r r') in
omit hr in
/-- Whether a file counts as a source or a header is seen from its names. -/
theorem hasExtension_descend (extensions : List String) (h : names ∈ N) :
    (r.descend names).hasExtension extensions = (r'.descend names).hasExtension extensions := by
  rw [Path.hasExtension, Path.hasExtension, Path.extension?_descend (hN.named names h) (hN.some names h),
    Path.extension?_descend (hN.named names h) (hN.some names h)]

/-! ## What a source asks for -/

/-- The names that a file with some bytes asks for in vain next to itself. -/
def ownNames (isFile : Path → Bool) (read : Except Error ByteArray) (p : Path) : List String :=
  (((includes read).filter fun d => ¬ Include.Beside isFile p d).map (·.name)).eraseDups

theorem mem_sources_descend (named : ∀ name ∈ names, Path.IsName name) :
    r.descend names ∈ (ofFiles r (N.map r.descend) bytes).sources.paths ↔
      names ∈ N ∧ (r.descend names).isSource = true ∧ (bytes (r.descend names)).isOk = true := by
  rw [mem_sources_ofFiles (alike_descend hN hr), descend_mem_map hN hr named]

theorem eraseDups_requested (h : names ∈ N) (isSource : (r.descend names).isSource = true) :
    (Include.requested isFile (ofFiles r (N.map r.descend) bytes).directives.entries
      (r.descend names)).eraseDups = ownNames isFile (bytes (r.descend names)) (r.descend names) := by
  have read : r.descend names ∈ scanned (N.map r.descend) :=
    List.mem_filter.2 ⟨List.mem_map_of_mem h, by rw [isSource]; rfl⟩
  rw [Include.requested, directivesOf_ofFiles (alike_descend hN hr) read, ownNames]

theorem ownNames_prefix (h : names ∈ N) (isSource : (r.descend names).isSource = true) :
    ownNames isFile (bytes (r.descend names)) (r.descend names) <+:
      (ofFiles r (N.map r.descend) bytes).unresolved isFile (r.descend names) := by
  rw [← eraseDups_requested hN hr h isSource]
  exact Include.prefix_unresolved _ _

theorem exists_names_of_mem_sources {p : Path}
    (hp : p ∈ (ofFiles r (N.map r.descend) bytes).sources.paths) :
    ∃ names, p = r.descend names ∧ ∀ name ∈ names, Path.IsName name :=
  spelled_descend hN p ((mem_sources_ofFiles (alike_descend hN hr)).1 hp).1

/-- Below a root that is not spelled directly no header that a source reaches is found, as
    all that it reaches is spelled in normal form. -/
theorem unresolved_of_not_isDirect (notDirect : ¬ r.IsDirect) (h : names ∈ N)
    (isSource : (r.descend names).isSource = true) :
    (ofFiles r (N.map r.descend) bytes).unresolved isFile (r.descend names) =
      ownNames isFile (bytes (r.descend names)) (r.descend names) := by
  rw [← eraseDups_requested hN hr h isSource, unresolved]
  refine Include.unresolved_of_apart fun file normal e he same => notDirect ?_
  rw [ofFiles, directives_foldl] at he
  have held : e.1 ∈ N.map r.descend := by
    rcases Path.Table.mem_paths_insertMany (List.mem_map_of_mem he) with held | held
    · obtain ⟨f, hf, hfile⟩ := List.mem_map.1 held
      obtain ⟨p, hp, rfl⟩ := List.mem_map.1 hf
      rw [← hfile]
      exact List.mem_of_mem_filter (List.mem_of_mem_filter hp)
    · cases held
  obtain ⟨more, hmore, hfile⟩ := List.mem_map.1 held
  exact Path.isDirect_of_components_eq hr (hN.named more hmore) (hN.plain more hmore) normal
    (hN.some more hmore) (by rw [← same, hfile])

section Both

variable (same : r.normal = r'.normal)
include hr' same

theorem sibling_descend (h : names ∈ N) (name : String) :
    Include.sibling (r.descend names).directory name =
      Include.sibling (r'.descend names).directory name := by
  obtain ⟨init, last, rfl⟩ := (List.eq_nil_or_concat names).resolve_left (hN.some names h)
  rw [List.concat_eq_append] at h ⊢
  have named : ∀ n ∈ init, Path.IsName n := fun n hn => hN.named _ h n (by simp [hn])
  have plain : ∀ n ∈ init, '\\' ∉ n.toList := fun n hn => hN.plain _ h n (by simp [hn])
  have above : ∀ p : Path, p.chars ≠ [] →
      (p.descend (init ++ [last])).directory.components = (p.descend init).components := by
    intro p hp
    rw [Path.components_directory, Path.components_descend hp (hN.named _ h),
      Path.components_descend hp named]
    simp [← List.append_assoc]
  rw [Include.sibling, Include.sibling, Path.normal_join_congr (above r hr),
    Path.normal_join_congr (above r' hr')]
  exact Path.normal_join_of_normal (Path.descend_chars_ne_nil hr) (Path.descend_chars_ne_nil hr')
    (Path.normal_descend_of_normal hr hr' same named plain)

theorem ownNames_descend (h : names ∈ N) (read : Except Error ByteArray) :
    ownNames isFile read (r.descend names) = ownNames isFile read (r'.descend names) := by
  have beside : ∀ d, Include.Beside isFile (r.descend names) d ↔
      Include.Beside isFile (r'.descend names) d := by
    intro d
    rw [Include.Beside, Include.Beside, sibling_descend hN hr hr' same h]
  simp only [ownNames, beside]

end Both

section SameComponents

variable (same : r.components = r'.components)
  (hread : ∀ names ∈ N, bytes (r.descend names) = bytes (r'.descend names))
include hr' same hread

omit hN hread in
theorem components_descend_congr (named : ∀ name ∈ names, Path.IsName name) :
    (r.descend names).components = (r'.descend names).components := by
  rw [Path.components_descend hr named, Path.components_descend hr' named, same]

theorem alike_directives :
    Include.Alike (ofFiles r (N.map r.descend) bytes).directives.entries
      (ofFiles r' (N.map r'.descend) bytes).directives.entries := by
  have counts : ∀ names ∈ N,
      ((bytes (r.descend names)).isOk && ((r.descend names).isSource || (r.descend names).isHeader)) =
        ((bytes (r'.descend names)).isOk &&
          ((r'.descend names).isSource || (r'.descend names).isHeader)) := by
    intro names h
    rw [hread names h, Path.isSource, Path.isSource, Path.isHeader, Path.isHeader,
      hasExtension_descend r r' hN _ h, hasExtension_descend r r' hN _ h]
  rw [ofFiles, ofFiles, directives_foldl, directives_foldl]
  refine Include.Alike.insertMany .nil ?_
  simp only [List.filter_filter, List.filter_map, List.map_map, Function.comp_def]
  rw [List.filter_congr counts]
  refine List.forall₂_map_left_iff.2 (List.forall₂_map_right_iff.2 ?_)
  refine List.forall₂_same.2 fun names h => ?_
  have hnames := List.mem_of_mem_filter h
  exact ⟨components_descend_congr hr hr' same (hN.named names hnames), by rw [hread names hnames]⟩

theorem unresolved_congr (h : names ∈ N) :
    (ofFiles r (N.map r.descend) bytes).unresolved isFile (r.descend names) =
      (ofFiles r' (N.map r'.descend) bytes).unresolved isFile (r'.descend names) := by
  rw [unresolved, unresolved, Include.unresolved, Include.unresolved, index_ofFiles, index_ofFiles]
  refine Include.walk_of_alike (fun name => ?_) (alike_directives hN hr hr' same hread)
    (.cons (components_descend_congr hr hr' same (hN.named names h)) .nil)
  obtain ⟨places, named, found, found'⟩ := exists_directories_descend hN hr hr' name
  rw [found, found']
  refine List.forall₂_map_left_iff.2 (List.forall₂_map_right_iff.2 ?_)
  refine List.forall₂_same.2 fun dirs hdirs => ?_
  exact components_descend_congr hr hr' same (named dirs hdirs)

end SameComponents

section Spellings

variable (same : r.normal = r'.normal)
  (hread : ∀ names ∈ N, bytes (r.descend names) = bytes (r'.descend names))
include hr' hread

theorem mem_sources_congr (named : ∀ name ∈ names, Path.IsName name) :
    r.descend names ∈ (ofFiles r (N.map r.descend) bytes).sources.paths ↔
      r'.descend names ∈ (ofFiles r' (N.map r'.descend) bytes).sources.paths := by
  rw [mem_sources_descend hN hr named, mem_sources_descend hN hr' named]
  refine and_congr_right fun h => ?_
  rw [hread names h, Path.isSource, Path.isSource, hasExtension_descend r r' hN _ h]

include same

/-- Two spellings of one normal form find the same names if both or none is direct. -/
theorem unresolved_of_isDirect_iff (alike : r.IsDirect ↔ r'.IsDirect) (h : names ∈ N)
    (isSource : (r.descend names).isSource = true) :
    (ofFiles r (N.map r.descend) bytes).unresolved isFile (r.descend names) =
      (ofFiles r' (N.map r'.descend) bytes).unresolved isFile (r'.descend names) := by
  by_cases direct : r.IsDirect
  · have places : r.components = r'.components := by
      rw [← direct.1, ← (alike.1 direct).1, same]
    exact unresolved_congr hN hr hr' places hread h
  · have isSource' : (r'.descend names).isSource = true := by
      rwa [Path.isSource, ← hasExtension_descend r r' hN _ h]
    rw [unresolved_of_not_isDirect hN hr direct h isSource,
      unresolved_of_not_isDirect hN hr' (fun h => direct (alike.2 h)) h isSource', hread names h,
      ownNames_descend hN hr hr' same h]

/-- Two spellings of one normal form, of which only one is direct, agree on a source exactly
    if its headers add nothing. -/
theorem unresolved_eq_iff (h : names ∈ N) (isSource : (r.descend names).isSource = true)
    {found found' own : List String}
    (hfound : (ofFiles r (N.map r.descend) bytes).unresolved isFile (r.descend names) = found)
    (hfound' : (ofFiles r' (N.map r'.descend) bytes).unresolved isFile (r'.descend names) = found')
    (fewer : ¬ r.IsDirect → found = own) (fewer' : ¬ r'.IsDirect → found' = own) :
    found = found' ↔ (r.IsDirect ↔ r'.IsDirect) ∨ found = own ∧ found' = own := by
  constructor
  · intro equal
    by_cases direct : r.IsDirect
    · by_cases direct' : r'.IsDirect
      · exact .inl ⟨fun _ => direct', fun _ => direct⟩
      · exact .inr ⟨equal.trans (fewer' direct'), fewer' direct'⟩
    · exact .inr ⟨fewer direct, equal.symm.trans (fewer direct)⟩
  · rintro (alike | ⟨left, right⟩)
    · rw [← hfound, ← hfound']
      exact unresolved_of_isDirect_iff hN hr hr' same hread alike h isSource
    · exact left.trans right.symm

end Spellings

end Names

/-! ## One directory under two spellings -/

section Tree

variable {t : Tree} {working l : Location} {r r' : Path} {f : Filter} {text : String}

/-- The names under which a filter counts files of a place, seen from a root. -/
def countedNames (t : Tree) (l : Location) (f : Filter) (r : Path) : List (List String) :=
  (t.namesBelow t.walkDepth l).filter fun names => f.includes (r.descend names)

variable (hwf : t.WellFormed)
  (plain : ∀ names e, (l ++ names, e) ∈ t.entries → ∀ name ∈ names, '\\' ∉ name.toList)
include hwf plain

theorem fileNames_namesBelow : FileNames (t.namesBelow t.walkDepth l) where
  some names h := (Tree.mem_namesBelow h).1
  named names h := by
    obtain ⟨-, bytes, executable, hfile⟩ := Tree.mem_namesBelow h
    exact fun name hname => hwf.named _ hfile name (List.mem_append_right l hname)
  plain names h := by
    obtain ⟨-, bytes, executable, hfile⟩ := Tree.mem_namesBelow h
    exact plain names _ hfile

theorem fileNames_countedNames : FileNames (countedNames t l f r) where
  some names h := (fileNames_namesBelow hwf plain).some names (List.mem_of_mem_filter h)
  named names h := (fileNames_namesBelow hwf plain).named names (List.mem_of_mem_filter h)
  plain names h := (fileNames_namesBelow hwf plain).plain names (List.mem_of_mem_filter h)

theorem countedNames_congr (hr : r.chars ≠ []) (hr' : r'.chars ≠ []) (same : r.normal = r'.normal) :
    countedNames t l f r = countedNames t l f r' := by
  have below := fileNames_namesBelow hwf plain
  refine List.filter_congr fun names h => Filter.includes_congr ?_
  exact Path.normal_descend_of_normal hr hr' same (below.named names h) (below.plain names h)

omit plain in
theorem survey_eq (leads : t.entry working true r = .ok (l, .directory)) (linkFree : t.LinkFree l)
    (short : t.Within l r) (followLinks : Bool) :
    (Input.mk t working r f followLinks).survey =
      ofFiles r ((countedNames t l f r).map r.descend) (t.read working) := by
  rw [Input.survey, ofTree, Tree.files_eq hwf leads linkFree short followLinks, List.filter_map]
  rfl

/-- The survey under another spelling counts files of the same names. -/
theorem survey_eq_congr (same : r.normal = r'.normal)
    (leads : t.entry working true r = .ok (l, .directory))
    (leads' : t.entry working true r' = .ok (l, .directory)) (linkFree : t.LinkFree l)
    (short' : t.Within l r') (followLinks : Bool) :
    (Input.mk t working r' f followLinks).survey =
      ofFiles r' ((countedNames t l f r).map r'.descend) (t.read working) := by
  rw [countedNames_congr hwf plain (Tree.chars_ne_nil_of_entry leads) (Tree.chars_ne_nil_of_entry leads')
    same]
  exact survey_eq hwf leads' linkFree short' followLinks

omit plain in
theorem read_descend_congr (leads : t.entry working true r = .ok (l, .directory))
    (leads' : t.entry working true r' = .ok (l, .directory)) (linkFree : t.LinkFree l)
    (short : t.Within l r) (short' : t.Within l r') {names : List String}
    (h : names ∈ countedNames t l f r) :
    t.read working (r.descend names) = t.read working (r'.descend names) := by
  rw [Tree.read, Tree.read, Tree.entry_descend_congr hwf leads linkFree short leads' short'
    (List.mem_of_mem_filter h)]

/-- Scans of one directory without links under spellings of one normal form find the same
    sources and, for each of them, the names of its own text first. Below a root that is
    not spelled directly these are all; if both or none of the roots are spelled directly,
    the scans find the same names. -/
theorem scan_of_spellings (same : r.normal = r'.normal)
    (leads : t.entry working true r = .ok (l, .directory))
    (leads' : t.entry working true r' = .ok (l, .directory)) (linkFree : t.LinkFree l)
    (short : t.Within l r) (short' : t.Within l r') (hf : Filter.ofText r text = .ok f)
    (followLinks : Bool) :
    Filter.ofText r' text = .ok f ∧
      let i : Input := ⟨t, working, r, f, followLinks⟩
      let i' : Input := ⟨t, working, r', f, followLinks⟩
      (∀ p ∈ i.scan.sources.paths,
        ∃ names, p = r.descend names ∧ ∀ name ∈ names, Path.IsName name) ∧
      (∀ p ∈ i'.scan.sources.paths,
        ∃ names, p = r'.descend names ∧ ∀ name ∈ names, Path.IsName name) ∧
      ∀ names, (∀ name ∈ names, Path.IsName name) →
        (r.descend names ∈ i.scan.sources.paths ↔ r'.descend names ∈ i'.scan.sources.paths) ∧
        (r.descend names ∈ i.scan.sources.paths →
          let own := ownNames i.isFile (i.read (r.descend names)) (r.descend names)
          let found := i.scan.unresolvedFor (r.descend names)
          let found' := i'.scan.unresolvedFor (r'.descend names)
          own <+: found ∧ own <+: found' ∧ (¬ r.IsDirect → found = own) ∧
            (¬ r'.IsDirect → found' = own) ∧
            (found = found' ↔ ((r.IsDirect ↔ r'.IsDirect) ∨ found = own ∧ found' = own))) := by
  have hr := Tree.chars_ne_nil_of_entry leads
  have hr' := Tree.chars_ne_nil_of_entry leads'
  refine ⟨Filter.ofText_congr same text ▸ hf, ?_⟩
  intro i i'
  have hN : FileNames (countedNames t l f r) := fileNames_countedNames hwf plain
  have survey : i.survey = ofFiles r ((countedNames t l f r).map r.descend) (t.read working) :=
    survey_eq hwf leads linkFree short followLinks
  have survey' : i'.survey = ofFiles r' ((countedNames t l f r).map r'.descend) (t.read working) :=
    survey_eq_congr hwf plain same leads leads' linkFree short' followLinks
  have hread : ∀ names ∈ countedNames t l f r,
      t.read working (r.descend names) = t.read working (r'.descend names) :=
    fun names => read_descend_congr hwf leads leads' linkFree short short'
  have held : i.scan.sources =
      (ofFiles r ((countedNames t l f r).map r.descend) (t.read working)).sources :=
    congrArg Survey.sources survey
  have held' : i'.scan.sources =
      (ofFiles r' ((countedNames t l f r).map r'.descend) (t.read working)).sources :=
    congrArg Survey.sources survey'
  refine ⟨fun p hp => exists_names_of_mem_sources hN hr (held ▸ hp),
    fun p hp => exists_names_of_mem_sources hN hr' (held' ▸ hp), fun names named => ?_⟩
  have matched : r.descend names ∈ i.scan.sources.paths ↔ r'.descend names ∈ i'.scan.sources.paths := by
    rw [held, held']
    exact mem_sources_congr hN hr hr' hread named
  refine ⟨matched, fun hsource => ?_⟩
  have hsource' := matched.1 hsource
  obtain ⟨hnames, isSource, -⟩ := (mem_sources_descend hN hr named).1 (held ▸ hsource)
  obtain ⟨-, isSource', -⟩ := (mem_sources_descend hN hr' named).1 (held' ▸ hsource')
  have own : ownNames i.isFile (i.read (r.descend names)) (r.descend names) =
      ownNames i.isFile (t.read working (r'.descend names)) (r'.descend names) := by
    rw [← hread names hnames, ← ownNames_descend hN hr hr' same hnames]
    rfl
  have found := unresolvedFor_scan hsource
  have found' := unresolvedFor_scan hsource'
  rw [survey] at found
  rw [survey'] at found'
  have fewer := fun notDirect : ¬ r.IsDirect =>
    found.trans (unresolved_of_not_isDirect hN hr notDirect hnames isSource)
  have fewer' := fun notDirect : ¬ r'.IsDirect =>
    (found'.trans (unresolved_of_not_isDirect hN hr' notDirect hnames isSource')).trans own.symm
  refine ⟨?_, ?_, fewer, fewer', ?_⟩
  · rw [found]
    exact ownNames_prefix hN hr hnames isSource
  · rw [found', own]
    exact ownNames_prefix hN hr' hnames isSource'
  · exact unresolved_eq_iff hN hr hr' same hread hnames isSource found.symm found'.symm fewer fewer'

end Tree

/-- A source, and the header it finds in a directory further down. -/
def headerBelow (source header : ByteArray) : Tree :=
  (((Tree.empty.put ["x"] .directory).put ["x", "main.cpp"] (.file source false)).put
    ["x", "inc"] .directory).put ["x", "inc", "lib.h"] (.file header false)

section HeaderBelow

variable (source header : ByteArray)

theorem wellFormed_headerBelow : (headerBelow source header).WellFormed :=
  (((Tree.wellFormed_empty.put (by decide)).put (by decide)).put (by decide)).put (by decide)

variable {source header} in
theorem mem_headerBelow {names : List String} {e : Files.Entry}
    (h : (["x"] ++ names, e) ∈ (headerBelow source header).entries) :
    (e = .directory ∨ ∃ bytes, e = .file bytes false) ∧
      names ∈ [[], ["main.cpp"], ["inc"], ["inc", "lib.h"]] := by
  have entries : (headerBelow source header).entries = [(["x"], .directory),
      (["x", "main.cpp"], .file source false), (["x", "inc"], .directory),
      (["x", "inc", "lib.h"], .file header false)] := by
    cbv
  rw [entries] at h
  rcases h with _ | ⟨_, _ | ⟨_, _ | ⟨_, _ | ⟨_, ⟨⟩⟩⟩⟩⟩ <;> simp

theorem linkFree_headerBelow : (headerBelow source header).LinkFree ["x"] := by
  intro names target h
  rcases (mem_headerBelow h).1 with h | ⟨_, h⟩ <;> cases h

theorem plain_headerBelow (names : List String) (e : Files.Entry)
    (h : (["x"] ++ names, e) ∈ (headerBelow source header).entries) :
    ∀ name ∈ names, '\\' ∉ name.toList := by
  have plain : ∀ names ∈ [[], ["main.cpp"], ["inc"], ["inc", "lib.h"]],
      ∀ name ∈ names, '\\' ∉ name.toList := by decide
  exact plain names (mem_headerBelow h).2

theorem within_headerBelow :
    (headerBelow source header).Within ["x"] ⟨"x"⟩ ∧ (headerBelow source header).Within ["x"] ⟨"./x"⟩ := by
  have short : ∀ names ∈ [[], ["main.cpp"], ["inc"], ["inc", "lib.h"]], ∀ root ∈ ["x", "./x"],
      ((Path.mk root).descend names).text.utf8ByteSize ≤ Files.pathLimit := by
    decide
  exact ⟨fun names e h => short names (mem_headerBelow h).2 "x" (by decide),
    fun names e h => short names (mem_headerBelow h).2 "./x" (by decide)⟩

theorem entry_headerBelow (b : Bool) :
    (headerBelow source header).entry [] b ⟨"x"⟩ = .ok (["x"], .directory) ∧
      (headerBelow source header).entry [] b ⟨"./x"⟩ = .ok (["x"], .directory) := by
  have leads : Files.steps "x" = ["x"] := by decide
  have leads' : Files.steps "./x" = [".", "x"] := by decide
  rw [Tree.entry, Tree.entry, Tree.locate_relative (by decide) (by decide) (by decide) (by decide),
    Tree.locate_relative (by decide) (by decide) (by decide) (by decide), leads, leads']
  constructor <;> cases b <;> cbv

theorem countedNames_headerBelow :
    countedNames (headerBelow source header) ["x"] (.everything ⟨"x"⟩) ⟨"x"⟩ =
      [["main.cpp"], ["inc", "lib.h"]] := by
  have below : (headerBelow source header).namesBelow (headerBelow source header).walkDepth ["x"] =
      [["main.cpp"], ["inc", "lib.h"]] := by
    cbv
  rw [countedNames, below]
  decide

theorem read_headerBelow :
    (headerBelow source header).read [] ⟨"x/main.cpp"⟩ = .ok source ∧
      (headerBelow source header).read [] ⟨"./x/main.cpp"⟩ = .ok source ∧
        (headerBelow source header).read [] ⟨"x/inc/lib.h"⟩ = .ok header := by
  have main : Files.steps "x/main.cpp" = ["x", "main.cpp"] := by decide
  have main' : Files.steps "./x/main.cpp" = [".", "x", "main.cpp"] := by decide
  have lib : Files.steps "x/inc/lib.h" = ["x", "inc", "lib.h"] := by decide
  refine ⟨?_, ?_, ?_⟩ <;>
    rw [Tree.read, Tree.entry, Tree.locate_relative (by decide) (by decide) (by decide) (by decide)]
  · rw [main]; cbv
  · rw [main']; cbv
  · rw [lib]; cbv

/-- What the scans of the directory under two spellings are made of. -/
theorem survey_headerBelow :
    (Input.mk (headerBelow source header) [] ⟨"x"⟩ (.everything ⟨"x"⟩) false).survey =
        ofFiles ⟨"x"⟩ ([["main.cpp"], ["inc", "lib.h"]].map (Path.mk "x").descend)
          ((headerBelow source header).read []) ∧
      (Input.mk (headerBelow source header) [] ⟨"./x"⟩ (.everything ⟨"x"⟩) false).survey =
        ofFiles ⟨"./x"⟩ ([["main.cpp"], ["inc", "lib.h"]].map (Path.mk "./x").descend)
          ((headerBelow source header).read []) := by
  have hwf := wellFormed_headerBelow source header
  have linkFree := linkFree_headerBelow source header
  obtain ⟨leads, leads'⟩ := entry_headerBelow source header true
  obtain ⟨short, short'⟩ := within_headerBelow source header
  have same : (Path.mk "x").normal = (Path.mk "./x").normal := by decide
  rw [← countedNames_headerBelow source header]
  exact ⟨survey_eq hwf leads linkFree short false,
    survey_eq_congr hwf (plain_headerBelow source header) same leads leads' linkFree short' false⟩

end HeaderBelow

theorem fileNames_headerBelow : FileNames [["main.cpp"], ["inc", "lib.h"]] :=
  ⟨by decide, by decide, by decide⟩

/-- The source leads to the header in the index, which asks for more. -/
theorem mem_unresolved_of_headerBelow {bytes : Path → Except Error ByteArray} (isFile : Path → Bool)
    (asksLib : includes (bytes ⟨"x/main.cpp"⟩) = [⟨"lib.h", false⟩])
    (asksOther : includes (bytes ⟨"x/inc/lib.h"⟩) = [⟨"other.h", false⟩]) :
    "other.h" ∈ (ofFiles ⟨"x"⟩ [⟨"x/main.cpp"⟩, ⟨"x/inc/lib.h"⟩] bytes).unresolved isFile
      ⟨"x/main.cpp"⟩ := by
  have alike : Survey.Alike [⟨"x/main.cpp"⟩, ⟨"x/inc/lib.h"⟩] := by
    have files : [["main.cpp"], ["inc", "lib.h"]].map (Path.mk "x").descend =
        [⟨"x/main.cpp"⟩, ⟨"x/inc/lib.h"⟩] := by decide
    rw [← files]
    exact alike_descend fileNames_headerBelow (by decide)
  have leads : Include.sibling ⟨"x/inc"⟩ "lib.h" = ⟨"x/inc/lib.h"⟩ := by decide
  have directory : ⟨"x/inc"⟩ ∈
      (indexFiles ⟨"x"⟩ [⟨"x/main.cpp"⟩, ⟨"x/inc/lib.h"⟩]).directories "lib.h" := by
    decide
  have asks : ⟨"lib.h", false⟩ ∈ Include.directivesOf
      (ofFiles ⟨"x"⟩ [⟨"x/main.cpp"⟩, ⟨"x/inc/lib.h"⟩] bytes).directives.entries ⟨"x/main.cpp"⟩ := by
    rw [directivesOf_ofFiles alike (by decide), asksLib]
    exact List.mem_cons_self
  have step := Include.Leads.indexed asks (fun h : Include.Beside isFile _ _ => Bool.false_ne_true h.1)
    directory
  rw [leads] at step
  rw [unresolved, Include.unresolved, Include.mem_walk (Include.distinct_entries _), index_ofFiles]
  refine .inr ⟨⟨"x/inc/lib.h"⟩, .step (.start List.mem_cons_self) step, ?_⟩
  rw [Include.requested, directivesOf_ofFiles alike (by decide), asksOther]
  exact List.mem_cons_self

/-- The source is found under both spellings, with the name of its own text first. -/
theorem scan_of_spellings_dotted :
    let t := headerBelow "#include <lib.h>\n".toUTF8 "#include <other.h>\n".toUTF8
    let i : Input := ⟨t, [], ⟨"x"⟩, .everything ⟨"x"⟩, false⟩
    let i' : Input := ⟨t, [], ⟨"./x"⟩, .everything ⟨"x"⟩, false⟩
    Filter.ofText ⟨"./x"⟩ "" = .ok i'.filter ∧
      (⟨"x/main.cpp"⟩ ∈ i.scan.sources.paths ↔ ⟨"./x/main.cpp"⟩ ∈ i'.scan.sources.paths) ∧
      (⟨"x/main.cpp"⟩ ∈ i.scan.sources.paths →
        ["lib.h"] <+: i.scan.unresolvedFor ⟨"x/main.cpp"⟩ ∧
          i'.scan.unresolvedFor ⟨"./x/main.cpp"⟩ = ["lib.h"]) := by
  generalize hsource : "#include <lib.h>\n".toUTF8 = source
  generalize "#include <other.h>\n".toUTF8 = header
  intro t i i'
  have same : (Path.mk "x").normal = (Path.mk "./x").normal := by decide
  obtain ⟨leads, leads'⟩ := entry_headerBelow source header true
  obtain ⟨short, short'⟩ := within_headerBelow source header
  obtain ⟨filtered, -, -, found⟩ := scan_of_spellings (wellFormed_headerBelow source header)
    (plain_headerBelow source header) same leads leads' (linkFree_headerBelow source header) short short'
    (Filter.ofText_empty ⟨"x"⟩) false
  have main : (Path.mk "x").descend ["main.cpp"] = ⟨"x/main.cpp"⟩ := by decide
  have main' : (Path.mk "./x").descend ["main.cpp"] = ⟨"./x/main.cpp"⟩ := by decide
  have own : ownNames i.isFile (i.read ⟨"x/main.cpp"⟩) ⟨"x/main.cpp"⟩ = ["lib.h"] := by
    have read : i.read ⟨"x/main.cpp"⟩ = .ok source := (read_headerBelow source header).1
    have directives : includes (.ok source) = [⟨"lib.h", false⟩] := by
      rw [← hsource]
      decide
    rw [ownNames, read, directives]
    rfl
  obtain ⟨matched, names⟩ := found ["main.cpp"] (by decide)
  rw [main, main'] at matched names
  refine ⟨filtered, matched, fun h => ?_⟩
  obtain ⟨first, -, -, fewer', -⟩ := names h
  rw [← own]
  exact ⟨first, fewer' (by decide)⟩

/-- A scan from a spelling that is not direct misses what a header in the tree asks for. -/
theorem header_missed_of_dotted :
    let t := headerBelow "#include <lib.h>\n".toUTF8 "#include <other.h>\n".toUTF8
    let i : Input := ⟨t, [], ⟨"x"⟩, .everything ⟨"x"⟩, false⟩
    let i' : Input := ⟨t, [], ⟨"./x"⟩, .everything ⟨"x"⟩, false⟩
    t.WellFormed ∧ t.LinkFree ["x"] ∧ (Path.mk "x").normal = (Path.mk "./x").normal ∧
      t.entry [] true i.root = .ok (["x"], .directory) ∧ t.entry [] true i'.root = .ok (["x"], .directory) ∧
      Filter.ofText i.root "" = .ok i.filter ∧ Filter.ofText i'.root "" = .ok i'.filter ∧
      ⟨"x/main.cpp"⟩ ∈ i.scan.sources.paths ∧ ⟨"./x/main.cpp"⟩ ∈ i'.scan.sources.paths ∧
      "other.h" ∈ i.scan.unresolvedFor ⟨"x/main.cpp"⟩ ∧
      i'.scan.unresolvedFor ⟨"./x/main.cpp"⟩ = ["lib.h"] := by
  generalize hsource : "#include <lib.h>\n".toUTF8 = source
  generalize hheader : "#include <other.h>\n".toUTF8 = header
  intro t i i'
  have same : (Path.mk "x").normal = (Path.mk "./x").normal := by decide
  obtain ⟨leads, leads'⟩ := entry_headerBelow source header true
  obtain ⟨survey, survey'⟩ := survey_headerBelow source header
  obtain ⟨readMain, readMain', readLib⟩ := read_headerBelow source header
  have hN := fileNames_headerBelow
  have main : (Path.mk "x").descend ["main.cpp"] = ⟨"x/main.cpp"⟩ := by decide
  have main' : (Path.mk "./x").descend ["main.cpp"] = ⟨"./x/main.cpp"⟩ := by decide
  have lib : (Path.mk "x").descend ["inc", "lib.h"] = ⟨"x/inc/lib.h"⟩ := by decide
  have asksLib : includes (.ok source) = [⟨"lib.h", false⟩] := by
    rw [← hsource]
    decide
  have asksOther : includes (.ok header) = [⟨"other.h", false⟩] := by
    rw [← hheader]
    decide
  have held : ⟨"x/main.cpp"⟩ ∈ i.survey.sources.paths := by
    rw [survey, ← main, mem_sources_descend hN (by decide) (by decide), main, readMain]
    exact ⟨by decide, by decide, rfl⟩
  have held' : ⟨"./x/main.cpp"⟩ ∈ i'.survey.sources.paths := by
    rw [survey', ← main', mem_sources_descend hN (by decide) (by decide), main', readMain']
    exact ⟨by decide, by decide, rfl⟩
  refine ⟨wellFormed_headerBelow source header, linkFree_headerBelow source header, same, leads, leads',
    rfl, (Filter.ofText_congr same "").symm, held, held', ?_, ?_⟩
  · rw [unresolvedFor_scan held, survey]
    simp only [List.map_cons, List.map_nil, main, lib]
    exact mem_unresolved_of_headerBelow _ (by rw [readMain, asksLib]) (by rw [readLib, asksOther])
  · rw [unresolvedFor_scan held', survey', ← main', unresolved_of_not_isDirect hN (by decide)
      (by decide) (by decide) (by decide), main', readMain', ownNames, asksLib]
    rfl

end Survey

end CompileTree
