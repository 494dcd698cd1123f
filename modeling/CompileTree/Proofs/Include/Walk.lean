import CompileTree.Include.Walk
import CompileTree.Proofs.Path.Components

/-! # What the include walk finds

The walk goes from file to file as the directives lead, and a name is found when
some file that is reached asks for it in vain next to itself. Expanding a file
takes its entry away, so what is reached from a queue is stated for the entries
that are left; one expansion neither adds to it nor loses any of it.
-/

namespace CompileTree.Include

/-- The directives of a file, none if it has no entry. -/
def directivesOf (entries : List (Path × List Directive)) (file : Path) : List Directive :=
  ((entries.find? fun e => e.1.same file).map (·.2)).getD []

/-- A quoted directive that names a file next to the one it stands in. -/
def Beside (isFile : Path → Bool) (file : Path) (d : Directive) : Prop :=
  d.quoted = true ∧ isFile (sibling file.directory d.name) = true

instance (isFile : Path → Bool) (file : Path) (d : Directive) : Decidable (Beside isFile file d) :=
  inferInstanceAs (Decidable (_ ∧ _))

/-- The names that a file asks for in vain next to itself, in the order of its text. -/
def requested (isFile : Path → Bool) (entries : List (Path × List Directive)) (file : Path) :
    List String :=
  ((directivesOf entries file).filter fun d => ¬ Beside isFile file d).map (·.name)

section Reaching

variable (isFile : Path → Bool) (index : SuffixIndex) (entries : List (Path × List Directive))

/-- One file leads to another by a directive. -/
inductive Leads : Path → Path → Prop where
  | beside {file d} : d ∈ directivesOf entries file → Beside isFile file d →
      Leads file (sibling file.directory d.name)
  | indexed {file d directory} : d ∈ directivesOf entries file → ¬ Beside isFile file d →
      directory ∈ index.directories d.name → Leads file (sibling directory d.name)

/-- The files to which the directives lead from some files. -/
inductive Reach (starts : List Path) : Path → Prop where
  | start {file} : file ∈ starts → Reach starts file
  | step {file next} : Reach starts file → Leads isFile index entries file next → Reach starts next

end Reaching

variable {isFile : Path → Bool} {index : SuffixIndex} {entries rest : List (Path × List Directive)}

/-! ## Spellings -/

section Spellings

variable {file file' : Path} (same : file.components = file'.components)
include same

theorem directivesOf_congr : directivesOf entries file = directivesOf entries file' := by
  simp only [directivesOf, Path.same, same]

theorem beside_congr {d : Directive} : Beside isFile file d ↔ Beside isFile file' d := by
  rw [Beside, Beside, sibling, sibling, Path.normal_directory_join_congr same]

theorem requested_congr : requested isFile entries file = requested isFile entries file' := by
  simp only [requested, directivesOf_congr same, beside_congr same]

theorem Leads.congr {next : Path} (h : Leads isFile index entries file next) :
    Leads isFile index entries file' next := by
  cases h with
  | beside hd hbeside =>
      rw [sibling, Path.normal_directory_join_congr same]
      exact .beside (directivesOf_congr same ▸ hd) ((beside_congr same).1 hbeside)
  | indexed hd hbeside hdirectory =>
      have hbeside' : ¬ Beside isFile file' _ := fun h => hbeside ((beside_congr same).2 h)
      exact .indexed (directivesOf_congr same ▸ hd) hbeside' hdirectory

end Spellings

/-! ## Taking entries -/

/-- Every place has one entry at most. -/
def Distinct (entries : List (Path × List Directive)) : Prop :=
  entries.Pairwise fun a b => a.1.components ≠ b.1.components

theorem distinct_entries (table : DirectiveTable) : Distinct table.entries := by
  refine table.sorted.imp fun {a b} hlt same => ?_
  rw [Path.compare_eq_iff.2 same] at hlt
  cases hlt

section Pulling

variable {p q : Path} {e : Path × List Directive}

theorem directivesOf_cons : directivesOf (e :: entries) p =
    if e.1.components = p.components then e.2 else directivesOf entries p := by
  rw [directivesOf, List.find?_cons]
  by_cases same : e.1.components = p.components
  · rw [Path.same_iff.2 same, if_pos same]
    rfl
  · rw [Bool.eq_false_iff.2 (fun h => same (Path.same_iff.1 h)), if_neg same]
    rfl

/-- Entries of other places in front make no difference. -/
theorem directivesOf_append (before : ∀ b ∈ entries, b.1.components ≠ p.components) :
    directivesOf (entries ++ rest) p = directivesOf rest p := by
  induction entries with
  | nil => rfl
  | cons b entries ih =>
      obtain ⟨hb, hentries⟩ := List.forall_mem_cons.1 before
      rw [List.cons_append, directivesOf_cons, if_neg hb, ih hentries]

theorem directivesOf_append_congr {entries' : List (Path × List Directive)}
    (before : List (Path × List Directive)) (h : directivesOf entries p = directivesOf entries' p) :
    directivesOf (before ++ entries) p = directivesOf (before ++ entries') p := by
  induction before with
  | nil => exact h
  | cons b before ih =>
      rw [List.cons_append, List.cons_append, directivesOf_cons, directivesOf_cons, ih]

theorem directivesOf_eq_nil (none : ∀ b ∈ entries, b.1.components ≠ p.components) :
    directivesOf entries p = [] := by
  have all : directivesOf (entries ++ []) p = directivesOf [] p := directivesOf_append none
  rwa [List.append_nil] at all

theorem pull?_eq_none (h : pull? p entries = none) : ∀ b ∈ entries, b.1.components ≠ p.components := by
  induction entries with
  | nil => simp
  | cons b entries ih =>
      rw [pull?] at h
      split at h
      · cases h
      · next different =>
          exact List.forall_mem_cons.2
            ⟨fun same => different (Path.same_iff.2 same), ih (Option.map_eq_none_iff.1 h)⟩

/-- What is pulled is the first entry of its place. -/
theorem pull?_eq_some (h : pull? p entries = some (e, rest)) :
    ∃ before after, entries = before ++ e :: after ∧ rest = before ++ after ∧
      e.1.components = p.components ∧ ∀ b ∈ before, b.1.components ≠ p.components := by
  induction entries generalizing rest with
  | nil => cases h
  | cons b entries ih =>
      rw [pull?] at h
      split at h
      · next same =>
          cases h
          exact ⟨[], _, rfl, rfl, Path.same_iff.1 same, by simp⟩
      · next different =>
          obtain ⟨⟨g, left⟩, hleft, hfound⟩ := Option.map_eq_some_iff.1 h
          cases hfound
          obtain ⟨before, after, rfl, rfl, hplace, hbefore⟩ := ih hleft
          refine ⟨b :: before, after, rfl, rfl, hplace, List.forall_mem_cons.2 ⟨?_, hbefore⟩⟩
          exact fun same => different (Path.same_iff.2 same)

theorem directivesOf_of_pull (h : pull? p entries = some (e, rest)) : directivesOf entries p = e.2 := by
  obtain ⟨before, after, rfl, -, hplace, hbefore⟩ := pull?_eq_some h
  rw [directivesOf_append hbefore, directivesOf_cons, if_pos hplace]

/-- The other files keep their directives when an entry is taken away. -/
theorem directivesOf_pull_of_ne (h : pull? p entries = some (e, rest))
    (other : q.components ≠ p.components) : directivesOf rest q = directivesOf entries q := by
  obtain ⟨before, after, rfl, rfl, hplace, -⟩ := pull?_eq_some h
  have passed : e.1.components ≠ q.components := fun same => other (same.symm.trans hplace)
  refine directivesOf_append_congr before ?_
  rw [directivesOf_cons, if_neg passed]

/-- No entry is left for a place whose entry was taken away. -/
theorem directivesOf_pull_self (h : pull? p entries = some (e, rest)) (distinct : Distinct entries)
    (same : q.components = p.components) : directivesOf rest q = [] := by
  obtain ⟨before, after, rfl, rfl, hplace, hbefore⟩ := pull?_eq_some h
  refine directivesOf_eq_nil fun b hb => ?_
  rw [same]
  rcases List.mem_append.1 hb with hb | hb
  · exact hbefore b hb
  · have apart := (List.pairwise_append.1 distinct).2.1
    rw [← hplace]
    exact (List.rel_of_pairwise_cons apart hb).symm

theorem Distinct.pull (distinct : Distinct entries) (h : pull? p entries = some (e, rest)) :
    Distinct rest := by
  obtain ⟨before, after, rfl, rfl, -, -⟩ := pull?_eq_some h
  exact List.Pairwise.sublist (List.Sublist.append_left (List.sublist_cons_self ..) before) distinct

end Pulling

/-! ## Following directives -/

section Following

variable {file : Path} {directives : List Directive}

theorem follow_of_beside {d : Directive} (h : Beside isFile file d) :
    follow isFile index file.directory d = ([sibling file.directory d.name], none) := by
  rw [follow, if_pos (by simpa [Beside] using h)]

theorem follow_of_not_beside {d : Directive} (h : ¬ Beside isFile file d) :
    follow isFile index file.directory d =
      ((index.directories d.name).map (sibling · d.name), some d.name) := by
  rw [follow, if_neg (by simpa [Beside] using h)]

/-- The directives of a file lead on to all the files it leads to. -/
theorem mem_followed (h : directivesOf entries file = directives) {next : Path} :
    next ∈ (directives.map (follow isFile index file.directory)).flatMap (·.1) ↔
      Leads isFile index entries file next := by
  subst h
  rw [List.flatMap_map, List.mem_flatMap]
  constructor
  · rintro ⟨d, hd, hnext⟩
    by_cases hbeside : Beside isFile file d
    · rw [follow_of_beside hbeside] at hnext
      obtain rfl := List.mem_singleton.1 hnext
      exact .beside hd hbeside
    · rw [follow_of_not_beside hbeside] at hnext
      obtain ⟨directory, hdirectory, rfl⟩ := List.mem_map.1 hnext
      exact .indexed hd hbeside hdirectory
  · intro h
    cases h with
    | @beside d hd hbeside =>
        refine ⟨d, hd, ?_⟩
        rw [follow_of_beside hbeside]
        exact List.mem_singleton.2 rfl
    | @indexed d directory hd hbeside hdirectory =>
        refine ⟨d, hd, ?_⟩
        rw [follow_of_not_beside hbeside]
        exact List.mem_map_of_mem hdirectory

theorem filterMap_followed (h : directivesOf entries file = directives) :
    (directives.map (follow isFile index file.directory)).filterMap (·.2) =
      requested isFile entries file := by
  subst h
  rw [requested, List.filterMap_map]
  induction directivesOf entries file with
  | nil => rfl
  | cons d directives ih =>
      by_cases hbeside : Beside isFile file d
      · rw [List.filterMap_cons_none (by rw [Function.comp_apply, follow_of_beside hbeside]), ih,
          List.filter_cons_of_neg (by simpa using hbeside)]
      · rw [List.filterMap_cons_some (by rw [Function.comp_apply, follow_of_not_beside hbeside]), ih,
          List.filter_cons_of_pos (by simpa using hbeside), List.map_cons]

end Following

/-! ## Adding names -/

/-- The names of a list with those of another one that are not there yet. -/
def addNames (names new : List String) : List String :=
  new.foldl (fun names name => addName names (some name)) names

theorem foldl_addName (names : List String) (steps : List (List Path × Option String)) :
    steps.foldl (fun names s => addName names s.2) names = addNames names (steps.filterMap (·.2)) := by
  induction steps generalizing names with
  | nil => rfl
  | cons s steps ih =>
      rw [List.foldl_cons, ih]
      cases h : s.2 with
      | none => rw [List.filterMap_cons_none h, addName]
      | some name => rw [List.filterMap_cons_some h, addNames, addNames, List.foldl_cons]

theorem addNames_eq (names new : List String) :
    addNames names new = names ++ (new.filter (· ∉ names)).eraseDups := by
  induction new generalizing names with
  | nil => simp [addNames]
  | cons name new ih =>
      have added : addNames names (name :: new) = addNames (addName names (some name)) new := rfl
      rw [added, addName]
      split
      · next known => rw [ih, List.filter_cons_of_neg (by simpa using known)]
      · next unknown =>
          rw [ih, List.filter_cons_of_pos (by simpa using unknown), List.eraseDups_cons,
            List.filter_filter, List.append_assoc, List.singleton_append]
          congr 3
          refine List.filter_congr fun n _ => ?_
          grind

theorem mem_addNames {names new : List String} {name : String} :
    name ∈ addNames names new ↔ name ∈ names ∨ name ∈ new := by
  rw [addNames_eq, List.mem_append, List.mem_eraseDups, List.mem_filter]
  grind

theorem nodup_addNames {names new : List String} (h : names.Nodup) : (addNames names new).Nodup := by
  induction new generalizing names with
  | nil => exact h
  | cons name new ih =>
      have added : (addName names (some name)).Nodup := by
        rw [addName]
        split
        · exact h
        · next unknown => exact List.nodup_append.2 ⟨h, by simp, by grind⟩
      exact ih added

/-! ## Expanding a file -/

section Expanding

variable {file : Path} {queue starts : List Path}

theorem Leads.mono {f next : Path} (more : ∀ d ∈ directivesOf entries f, d ∈ directivesOf rest f)
    (h : Leads isFile index entries f next) : Leads isFile index rest f next := by
  cases h with
  | beside hd hbeside => exact .beside (more _ hd) hbeside
  | indexed hd hbeside hdirectory => exact .indexed (more _ hd) hbeside hdirectory

theorem Reach.mono {f : Path} (more : ∀ f, ∀ d ∈ directivesOf rest f, d ∈ directivesOf entries f)
    (reached : ∀ f ∈ queue, Reach isFile index entries starts f) (h : Reach isFile index rest queue f) :
    Reach isFile index entries starts f := by
  induction h with
  | start hf => exact reached _ hf
  | step _ hnext ih => exact ih.step (hnext.mono (more _))

/-- Without the entry of one file, everything else is still reached from a queue
    that holds whatever that file leads to. -/
theorem Reach.without {f : Path}
    (others : ∀ f : Path, f.components ≠ file.components → directivesOf rest f = directivesOf entries f)
    (kept : ∀ f ∈ queue, f ∈ starts) (followed : ∀ f, Leads isFile index entries file f → f ∈ starts)
    (h : Reach isFile index entries (file :: queue) f) :
    f.components = file.components ∨ Reach isFile index rest starts f := by
  induction h with
  | start hf =>
      rcases List.mem_cons.1 hf with rfl | hf
      · exact .inl rfl
      · exact .inr (.start (kept _ hf))
  | @step f next _ hnext ih =>
      by_cases same : f.components = file.components
      · exact .inr (.start (followed _ (hnext.congr same)))
      · have reached := ih.resolve_left same
        exact .inr (reached.step (hnext.mono fun d hd => by rwa [others f same]))

variable (isFile index entries queue) in
/-- Some file that is reached asks for a name in vain next to itself. -/
def Found (name : String) : Prop :=
  ∃ file, Reach isFile index entries queue file ∧ name ∈ requested isFile entries file

theorem requested_of_directives {f : Path} (h : directivesOf rest f = directivesOf entries f) :
    requested isFile rest f = requested isFile entries f := by
  rw [requested, requested, h]

theorem found_cons_of_pull_none {name : String} (h : pull? file entries = none) :
    Found isFile index entries (file :: queue) name ↔ Found isFile index entries queue name := by
  have nothing := directivesOf_eq_nil (pull?_eq_none h)
  constructor
  · rintro ⟨f, hf, hname⟩
    have followed : ∀ next, Leads isFile index entries file next → next ∈ queue := by
      intro next hnext
      cases hnext with
      | beside hd => simp [nothing] at hd
      | indexed hd => simp [nothing] at hd
    rcases hf.without (fun _ _ => rfl) (fun _ h => h) followed with same | hf
    · rw [requested_congr same, requested, nothing] at hname
      cases hname
    · exact ⟨f, hf, hname⟩
  · rintro ⟨f, hf, hname⟩
    exact ⟨f, hf.mono (fun _ _ hd => hd) (fun _ hg => .start (List.mem_cons_of_mem _ hg)), hname⟩

/-- Expanding a file finds the names it asks for, and leaves the others to be found. -/
theorem found_cons_of_pull {name : String} {e : Path × List Directive} (distinct : Distinct entries)
    (h : pull? file entries = some (e, rest)) :
    Found isFile index entries (file :: queue) name ↔
      name ∈ requested isFile entries file ∨
        Found isFile index rest
          (queue ++ (e.2.map (follow isFile index file.directory)).flatMap (·.1)) name := by
  have others : ∀ f : Path, f.components ≠ file.components →
      directivesOf rest f = directivesOf entries f := fun f => directivesOf_pull_of_ne h
  have leads : ∀ next, next ∈ (e.2.map (follow isFile index file.directory)).flatMap (·.1) ↔
      Leads isFile index entries file next := fun next => mem_followed (directivesOf_of_pull h)
  constructor
  · rintro ⟨f, hf, hname⟩
    by_cases same : f.components = file.components
    · exact .inl (requested_congr same ▸ hname)
    · have reached := hf.without others (fun _ hg => List.mem_append_left _ hg)
        (fun next hnext => List.mem_append_right _ ((leads next).2 hnext))
      rw [← requested_of_directives (others f same)] at hname
      exact .inr ⟨f, reached.resolve_left same, hname⟩
  · have more : ∀ f, ∀ d ∈ directivesOf rest f, d ∈ directivesOf entries f := by
      intro f d hd
      by_cases same : f.components = file.components
      · simp [directivesOf_pull_self h distinct same] at hd
      · rwa [← others f same]
    have start : Reach isFile index entries (file :: queue) file := .start List.mem_cons_self
    rintro (hname | ⟨f, hf, hname⟩)
    · exact ⟨file, start, hname⟩
    · refine ⟨f, hf.mono more fun g hg => ?_, ?_⟩
      · rcases List.mem_append.1 hg with hg | hg
        · exact .start (List.mem_cons_of_mem _ hg)
        · exact start.step ((leads g).1 hg)
      · by_cases same : f.components = file.components
        · rw [requested, directivesOf_pull_self h distinct same] at hname
          cases hname
        · rwa [← requested_of_directives (others f same)]

end Expanding

/-! ## The walk -/

theorem not_found_nil {name : String} : ¬ Found isFile index entries [] name := by
  rintro ⟨f, hf, hname⟩
  have nowhere : ∀ f, ¬ Reach isFile index entries [] f := by
    intro f hf
    induction hf with
    | start hf => cases hf
    | step _ _ ih => exact ih
  exact nowhere f hf

/-- A run of the walk adds the names that are found from its queue. -/
theorem mem_walk {names : List String} {queue : List Path} {name : String} (distinct : Distinct entries) :
    name ∈ walk isFile index entries names queue ↔
      name ∈ names ∨ Found isFile index entries queue name := by
  fun_induction walk isFile index entries names queue with
  | case1 => simp [not_found_nil]
  | case2 entries names file queue h ih => rw [ih distinct, found_cons_of_pull_none h]
  | case3 entries names file queue place directives rest h steps ih =>
      rw [ih (distinct.pull h), found_cons_of_pull distinct h, foldl_addName, mem_addNames,
        filterMap_followed (directivesOf_of_pull h), or_assoc]

theorem nodup_walk {names : List String} {queue : List Path} (h : names.Nodup) :
    (walk isFile index entries names queue).Nodup := by
  fun_induction walk isFile index entries names queue with
  | case1 => exact h
  | case2 entries names file queue _ ih => exact ih h
  | case3 entries names file queue place directives rest _ steps ih =>
      refine ih ?_
      rw [foldl_addName]
      exact nodup_addNames h

/-- Names found once stay where they are. -/
theorem prefix_walk (names : List String) (queue : List Path) :
    names <+: walk isFile index entries names queue := by
  fun_induction walk isFile index entries names queue with
  | case1 => exact List.prefix_rfl
  | case2 entries names file queue _ ih => exact ih
  | case3 entries names file queue place directives rest _ steps ih =>
      refine List.IsPrefix.trans ?_ ih
      rw [foldl_addName, addNames_eq]
      exact List.prefix_append ..

/-- The names of a source are those of its own first, as its text has them. -/
theorem prefix_unresolved (table : DirectiveTable) (source : Path) :
    (requested isFile table.entries source).eraseDups <+: unresolved isFile index table source := by
  rw [unresolved, walk]
  split
  · next h =>
      rw [requested, directivesOf_eq_nil (pull?_eq_none h)]
      exact List.nil_prefix
  · next place directives rest h =>
      refine List.IsPrefix.trans ?_ (prefix_walk ..)
      rw [foldl_addName, filterMap_followed (directivesOf_of_pull h), addNames_eq]
      simp

/-- The walk from a source finds every name that some file it reaches asks for in
    vain next to itself, each of them once, and no other. The names of the source
    itself come first, in the order of its text. -/
theorem unresolved_spec (isFile : Path → Bool) (index : SuffixIndex) (table : DirectiveTable)
    (source : Path) :
    (unresolved isFile index table source).Nodup ∧
      (∀ name, name ∈ unresolved isFile index table source ↔
        ∃ file, Reach isFile index table.entries [source] file ∧
          ∃ d ∈ directivesOf table.entries file, ¬ Beside isFile file d ∧ d.name = name) ∧
      (requested isFile table.entries source).eraseDups <+: unresolved isFile index table source := by
  refine ⟨nodup_walk List.nodup_nil, fun name => ?_, prefix_unresolved table source⟩
  rw [unresolved, mem_walk (distinct_entries table)]
  simp only [List.not_mem_nil, false_or, Found, requested, List.mem_map, List.mem_filter,
    decide_eq_true_eq, and_assoc]

/-- A source without directives needs nothing. -/
theorem unresolved_eq_nil {isFile : Path → Bool} {index : SuffixIndex} {table : DirectiveTable}
    {source : Path} (none : directivesOf table.entries source = []) :
    unresolved isFile index table source = [] := by
  rw [unresolved, walk]
  split
  · rw [walk]
  · next h =>
      rw [directivesOf_of_pull h] at none
      subst none
      simp [walk]

end CompileTree.Include
