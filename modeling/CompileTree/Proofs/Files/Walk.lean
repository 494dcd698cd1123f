import CompileTree.Files.Walk
import CompileTree.Proofs.Path.Descent
import Mathlib.Data.List.Nodup

/-! # What a walk finds

A walk finds files by the names that lead to them from its root. No name that it
did not read from the tree shows in what it finds, and a path that it finds as a
file it does not enter as a directory. Where there are no links, what it finds is decided
by the place of its root and not by how that is spelled (`files_eq`).
-/

namespace CompileTree.Files

/-! ## Names behind a path -/

section Names

variable {p : Path} {name : String}

theorem names_append_slash (a b : List Char) :
    names (String.ofList (a ++ '/' :: b)) = names (String.ofList a) ++ names (String.ofList b) := by
  simp only [names, String.toList_ofList, List.splitOn_append_cons_self, List.filter_append, List.map_append]

theorem names_of_isName (h : Path.IsName name) : names name = [name] := by
  rw [names, List.splitOn_eq_singleton h.2.1]
  have some : name.toList ≠ [] := fun empty => h.1 (String.toList_eq_nil_iff.1 empty)
  simp [some]

/-- A name joined to a path is followed behind what the path is followed by. -/
theorem steps_join (nonempty : p.text ≠ "") (h : Path.IsName name) :
    isRooted (p.join ⟨name⟩).text = isRooted p.text ∧
      ∃ before, steps (p.join ⟨name⟩).text = before ++ [name] ∧
        (steps p.text = before ∨ steps p.text = before ++ ["."]) := by
  have some : p.text.toList ≠ [] := fun empty => nonempty (String.toList_eq_nil_iff.1 empty)
  have counted : name.toList ≠ [] := fun empty => h.1 (String.toList_eq_nil_iff.1 empty)
  have last : name.toList.getLast? ≠ Option.some '/' := fun slash => h.2.1 (List.mem_of_getLast? slash)
  have joined : ∀ before : List Char, steps (String.ofList (before ++ '/' :: name.toList)) =
      names (String.ofList before) ++ [name] := by
    intro before
    rw [steps, names_append_slash, String.ofList_toList, names_of_isName h, if_neg]
    simpa [List.getLast?_append_of_ne_nil, List.getLast?_cons_of_ne_nil, counted] using last
  rw [Path.join_eq_of_relative h.relative]
  by_cases ends : p.chars.getLast? = Option.some '/'
  · obtain ⟨y, hy⟩ := List.getLast?_eq_some_iff.1 ends
    have whole : p.text.toList = y ++ ['/'] := hy
    have text : p.text ++ name = String.ofList (y ++ '/' :: name.toList) := by
      rw [← String.ofList_toList (s := p.text ++ name), String.toList_append, whole]
      simp
    rw [if_pos (.inr ends)]
    refine ⟨?_, names (String.ofList y), ?_, .inr ?_⟩
    · rw [text, isRooted, isRooted, String.toList_ofList, whole]
      cases y <;> rfl
    · rw [text, joined]
    · have spelled : p.text = String.ofList (y ++ '/' :: []) := by
        rw [← String.ofList_toList (s := p.text), whole]
      rw [steps, whole, if_pos (by simp), spelled, names_append_slash]
      exact congrArg (· ++ ["."]) (List.append_nil _)
  · have text : p.text ++ "/" ++ name = String.ofList (p.text.toList ++ '/' :: name.toList) := by
      rw [← String.ofList_toList (s := p.text ++ "/" ++ name)]
      simp
    rw [if_neg (by simpa [some, Path.chars] using ends)]
    refine ⟨?_, names p.text, ?_, .inl ?_⟩
    · rw [text, isRooted, isRooted, String.toList_ofList, List.head?_append_of_ne_nil _ some]
    · rw [text, joined, String.ofList_toList]
    · rw [steps, if_neg]
      simpa [Path.chars] using ends

end Names

namespace Tree

/-- What every tree of files grants: a name can be looked up as it is listed, and
    nothing stands twice at a place. -/
structure WellFormed (t : Tree) : Prop where
  named : ∀ e ∈ t.entries, ∀ name ∈ e.1, Path.IsName name
  once : (t.entries.map (·.1)).Nodup

section WellFormed

variable {t : Tree} {l : Location} {e : Entry} {entries : List (Location × Entry)}

theorem wellFormed_empty : empty.WellFormed := ⟨by simp [empty], by simp [empty]⟩

theorem locations_putEntry : (putEntry l e entries).map (·.1) =
    if l ∈ entries.map (·.1) then entries.map (·.1) else entries.map (·.1) ++ [l] := by
  induction entries with
  | nil => rfl
  | cons f entries ih =>
      rw [putEntry]
      by_cases here : f.1 = l
      · simp [here]
      · rw [if_neg here, List.map_cons, ih, List.map_cons]
        by_cases later : l ∈ entries.map (·.1)
        · rw [if_pos later, if_pos (List.mem_cons_of_mem _ later)]
        · rw [if_neg later, if_neg (by simpa [Ne.symm here] using later), List.cons_append]

/-- Letting an entry stand at a place with a proper name keeps a tree well-formed. -/
theorem WellFormed.put (h : t.WellFormed) (named : ∀ name ∈ l, Path.IsName name) :
    (t.put l e).WellFormed := by
  have locations : ((t.put l e).entries).map (·.1) = _ := locations_putEntry
  constructor
  · intro f hf
    have hl : f.1 ∈ ((t.put l e).entries).map (·.1) := List.mem_map_of_mem hf
    have known : f.1 = l ∨ f.1 ∈ t.entries.map (·.1) := by
      rw [locations] at hl
      split at hl
      · exact .inr hl
      · simpa [or_comm] using hl
    rcases known with known | known
    · exact known ▸ named
    · obtain ⟨g, hg, same⟩ := List.mem_map.1 known
      exact same ▸ h.named g hg
  · rw [locations]
    split
    · exact h.once
    · next fresh => exact List.nodup_append.2 ⟨h.once, by simp, by grind⟩

end WellFormed

/-- An absolute path is followed from the root directory. -/
theorem locate_rooted {t : Tree} {working : Location} {followLast : Bool} {p : Path}
    (noNul : '\x00' ∉ p.chars) (short : p.text.utf8ByteSize ≤ pathLimit)
    (rooted : isRooted p.text = true) :
    t.locate working followLast p = t.follow followLast linkLimit [] (steps p.text) := by
  have nonempty : p.text ≠ "" := by
    intro empty
    simp [isRooted, empty] at rooted
  rw [locate, if_neg noNul, if_neg (Nat.not_lt.2 short), resolve, if_neg nonempty, if_pos rooted]

/-- A path that is not absolute is followed from the working directory. -/
theorem locate_relative {t : Tree} {working : Location} {followLast : Bool} {p : Path}
    (noNul : '\x00' ∉ p.chars) (short : p.text.utf8ByteSize ≤ pathLimit) (nonempty : p.text ≠ "")
    (relative : isRooted p.text = false) :
    t.locate working followLast p = t.follow followLast linkLimit working (steps p.text) := by
  rw [locate, if_neg noNul, if_neg (Nat.not_lt.2 short), resolve, if_neg nonempty, relative,
    if_neg Bool.false_ne_true]

theorem isPrefixOf?_eq_some {l k rest : Location} (h : l.isPrefixOf? k = some rest) : l ++ rest = k := by
  induction l generalizing k with
  | nil => exact (Option.some.inj h).symm
  | cons name l ih =>
      cases k with
      | nil => cases h
      | cons m k =>
          rw [List.isPrefixOf?] at h
          split at h
          · next same => rw [List.cons_append, ih h, eq_of_beq same]
          · cases h

theorem mem_entries_of_mem_children {t : Tree} {l : Location} {name : String} {e : Entry}
    (h : (name, e) ∈ t.children l) : (l ++ [name], e) ∈ t.entries := by
  obtain ⟨f, hf, hchild⟩ := List.mem_filterMap.1 h
  split at hchild
  · next found =>
      cases hchild
      rw [isPrefixOf?_eq_some found]
      exact hf
  · cases hchild

/-- A name stands for one entry of a directory. -/
theorem WellFormed.child_unique {t : Tree} {l : Location} {name : String} {e f : Entry}
    (h : t.WellFormed) (he : (name, e) ∈ t.children l) (hf : (name, f) ∈ t.children l) : e = f := by
  have same := List.inj_on_of_nodup_map h.once (mem_entries_of_mem_children he)
    (mem_entries_of_mem_children hf) rfl
  exact (Prod.ext_iff.1 same).2

theorem WellFormed.get?_child {t : Tree} {l : Location} {name : String} {e : Entry}
    (hwf : t.WellFormed) (h : (name, e) ∈ t.children l) : t.get? (l ++ [name]) = some e := by
  obtain ⟨before, after, entries⟩ := List.append_of_mem (mem_entries_of_mem_children h)
  have once := hwf.once
  rw [entries, List.map_append, List.map_cons, List.nodup_append] at once
  have others : ∀ f ∈ before, (l ++ [name] != f.1) = true := by
    intro f hf
    have apart := once.2.2 f.1 (List.mem_map_of_mem hf) (l ++ [name]) List.mem_cons_self
    simpa using apart.symm
  rw [get?, if_neg (by simp), List.lookup_eq_some_iff]
  exact ⟨before, after, entries, others⟩

/-! ## What a walk sees -/

section Walked

variable (t : Tree) (working : Location) (followLinks : Bool)

/-- What a walk takes an entry for: links are seen through if they are followed. -/
def seen (p : Path) : Entry → Option Entry
  | .link _ => if followLinks then (t.entry working true p).toOption.map (·.2) else none
  | e => some e

/-- The names that lead a walk from a directory to a file. -/
inductive Walked : Path → List String → Prop where
  | file {directory place name e bytes executable} :
      t.entry working true directory = .ok (place, .directory) → (name, e) ∈ t.children place →
      t.seen working followLinks (directory.join ⟨name⟩) e = some (.file bytes executable) →
      Walked directory [name]
  | inside {directory place name e names} :
      t.entry working true directory = .ok (place, .directory) → (name, e) ∈ t.children place →
      t.seen working followLinks (directory.join ⟨name⟩) e = some .directory →
      Walked (directory.join ⟨name⟩) names → Walked directory (name :: names)

end Walked

variable {t : Tree} {working : Location} {followLinks : Bool} {directory root p q : Path}
  {names more : List String}

/-- What a walk reads of a tree are names of the tree. -/
theorem Walked.mem_location (h : Walked t working followLinks directory names) :
    ∀ name ∈ names, ∃ e ∈ t.entries, name ∈ e.1 := by
  have listed : ∀ {place : Location} {name : String} {e : Entry}, (name, e) ∈ t.children place →
      ∃ f ∈ t.entries, name ∈ f.1 := fun hname => ⟨_, mem_entries_of_mem_children hname, by simp⟩
  induction h with
  | file _ hname _ => exact List.forall_mem_singleton.2 (listed hname)
  | inside _ hname _ _ ih => exact List.forall_mem_cons.2 ⟨listed hname, ih⟩

theorem Walked.named (hwf : t.WellFormed) (h : Walked t working followLinks directory names) :
    ∀ name ∈ names, Path.IsName name := by
  intro name hname
  obtain ⟨e, he, hmem⟩ := h.mem_location name hname
  exact hwf.named e he name hmem

/-- One level of a walk: a name in the directory leads to the file itself or to a
    directory in which the file is found. -/
theorem mem_filesBelow_succ {depth : Nat} {above : List Location}
    (h : p ∈ t.filesBelow working followLinks (depth + 1) directory above) :
    ∃ place name e, t.entry working true directory = .ok (place, .directory) ∧
      (name, e) ∈ t.children place ∧
      ((p = directory.join ⟨name⟩ ∧
          ∃ bytes executable, t.seen working followLinks p e = some (.file bytes executable)) ∨
        (t.seen working followLinks (directory.join ⟨name⟩) e = some .directory ∧
          p ∈ t.filesBelow working followLinks depth (directory.join ⟨name⟩) (place :: above))) := by
  rw [filesBelow.eq_def] at h
  split at h
  · next depth' place hdepth opened =>
      obtain rfl : depth = depth' := Nat.succ.inj hdepth
      obtain ⟨⟨name, e⟩, hname, hp⟩ := List.mem_flatMap.1 h
      refine ⟨place, name, e, opened, hname, ?_⟩
      cases e with
      | file bytes executable =>
          obtain rfl := List.mem_singleton.1 hp
          exact .inl ⟨rfl, bytes, executable, rfl⟩
      | device => cases hp
      | directory => exact .inr ⟨rfl, hp⟩
      | link =>
          simp only at hp
          split at hp
          · next follows =>
              split at hp
              · next bytes executable target =>
                  obtain rfl := List.mem_singleton.1 hp
                  exact .inl ⟨rfl, bytes, executable, by simp [seen, follows, target, Except.toOption]⟩
              · next target =>
                  split at hp
                  · cases hp
                  · exact .inr ⟨by simp [seen, follows, target, Except.toOption], hp⟩
              · cases hp
          · cases hp
  · cases h

theorem mem_filesBelow {depth : Nat} {above : List Location}
    (h : p ∈ t.filesBelow working followLinks depth directory above) :
    ∃ names, names.length ≤ depth ∧ Walked t working followLinks directory names ∧
      p = directory.descend names := by
  induction depth generalizing directory above with
  | zero => simp [filesBelow] at h
  | succ depth ih =>
      obtain ⟨place, name, e, opened, hname, ⟨rfl, _, _, hseen⟩ | ⟨hseen, hp⟩⟩ := mem_filesBelow_succ h
      · exact ⟨[name], Nat.le_add_left 1 depth, .file opened hname hseen, rfl⟩
      · obtain ⟨names, few, hnames, rfl⟩ := ih hp
        exact ⟨name :: names, Nat.succ_le_succ few, .inside opened hname hseen hnames, rfl⟩

/-- A walk that does not follow links finds whatever is not too many levels down. -/
theorem Walked.mem_filesBelow {depth : Nat} {above : List Location}
    (h : Walked t working false directory names) (few : names.length ≤ depth) :
    directory.descend names ∈ t.filesBelow working false depth directory above := by
  induction h generalizing depth above with
  | @file directory place name e _ _ opened hname hseen =>
      obtain ⟨depth, rfl⟩ := Nat.exists_eq_add_one.2 (Nat.lt_of_lt_of_le Nat.one_pos few)
      rw [filesBelow_of_directory opened]
      refine List.mem_flatMap.2 ⟨(name, e), hname, ?_⟩
      cases e with
      | file => exact List.mem_singleton.2 rfl
      | directory | device | link => cases hseen
  | @inside directory place name e names opened hname hseen _ ih =>
      obtain ⟨depth, rfl⟩ := Nat.exists_eq_add_one.2 (Nat.lt_of_lt_of_le (Nat.succ_pos _) few)
      rw [filesBelow_of_directory opened]
      refine List.mem_flatMap.2 ⟨(name, e), hname, ?_⟩
      cases e with
      | directory => exact ih (Nat.succ_le_succ_iff.1 few)
      | file | device | link => cases hseen

/-- Below what a walk finds as a file it finds nothing else. -/
theorem Walked.eq_nil_of_append (hwf : t.WellFormed) (h : Walked t working followLinks directory names)
    (h' : Walked t working followLinks directory (names ++ more)) : more = [] := by
  induction h with
  | file opened hname hseen =>
      rw [List.singleton_append] at h'
      cases h' with
      | file => rfl
      | inside opened' hname' hseen' _ =>
          cases opened.symm.trans opened'
          rw [hwf.child_unique hname hname', hseen'] at hseen
          cases hseen
  | inside opened hname hseen _ ih =>
      rw [List.cons_append] at h'
      generalize behind : _ ++ more = rest at h'
      cases h' with
      | file => exact (List.append_eq_nil_iff.1 behind).2
      | inside _ _ _ below => exact ih (behind ▸ below)

/-! ## Walking from a root -/

theorem files_blank (t : Tree) (working : Location) (followLinks : Bool) :
    t.files working ⟨""⟩ followLinks = [] := rfl

/-- A walk from a root yields the root alone, if that leads to a file, or what it
    finds in the directory. -/
theorem mem_filesWithin {depth : Nat} (h : p ∈ t.filesWithin working root followLinks depth) :
    ∃ names, p = root.descend names ∧
      (names = [] ∧ t.isFile working root = true ∨
        names.length ≤ depth ∧ Walked t working followLinks root names) := by
  rw [filesWithin] at h
  split at h
  · next opened =>
      split at h
      · obtain rfl := List.mem_singleton.1 h
        exact ⟨[], rfl, .inl ⟨rfl, by simp [isFile, opened]⟩⟩
      · cases h
  · next opened =>
      obtain rfl := List.mem_singleton.1 h
      exact ⟨[], rfl, .inl ⟨rfl, by simp [isFile, opened]⟩⟩
  · obtain ⟨names, few, hnames, rfl⟩ := mem_filesBelow h
    exact ⟨names, rfl, .inr ⟨few, hnames⟩⟩
  · cases h

theorem mem_files (h : p ∈ t.files working root followLinks) :
    ∃ names, p = root.descend names ∧
      (names = [] ∧ t.isFile working root = true ∨ Walked t working followLinks root names) := by
  obtain ⟨names, rfl, found⟩ := mem_filesWithin h
  exact ⟨names, rfl, found.imp_right (·.2)⟩

/-- The names that lead to what a walk finds are names of the tree. -/
theorem exists_names {depth : Nat} (h : p ∈ t.filesWithin working root followLinks depth) :
    ∃ names, p = root.descend names ∧ ∀ name ∈ names, ∃ e ∈ t.entries, name ∈ e.1 := by
  obtain ⟨names, rfl, ⟨rfl, -⟩ | ⟨-, hnames⟩⟩ := mem_filesWithin h
  · exact ⟨[], rfl, by simp⟩
  · exact ⟨names, rfl, hnames.mem_location⟩

theorem Walked.not_isFile (h : Walked t working followLinks directory names) :
    t.isFile working directory = false := by
  cases h with
  | file opened | inside opened => simp [isFile, opened]

/-- Nothing that a walk finds lies below anything else that it finds, and it spells
    every place in one way only. -/
theorem eq_of_below (hwf : t.WellFormed) (nonempty : root.chars ≠ [])
    (hp : p ∈ t.files working root followLinks) (hq : q ∈ t.files working root followLinks)
    (below : p.components <+: q.components) : p = q := by
  obtain ⟨names, rfl, hnames⟩ := mem_files hp
  obtain ⟨names', rfl, ⟨rfl, isFile⟩ | hnames'⟩ := mem_files hq
  · rcases hnames with ⟨rfl, -⟩ | hnames
    · rfl
    · rw [hnames.not_isFile] at isFile
      cases isFile
  · rcases hnames with ⟨rfl, isFile⟩ | hnames
    · rw [hnames'.not_isFile] at isFile
      cases isFile
    · rw [Path.components_descend nonempty (hnames.named hwf),
        Path.components_descend nonempty (hnames'.named hwf), List.prefix_append_right_inj] at below
      obtain ⟨rest, hrest⟩ := below
      obtain ⟨a, more, rfl, ha, -⟩ := List.map_eq_append_iff.1 hrest.symm
      obtain rfl := Path.map_name_injective ha
      rw [hnames.eq_nil_of_append hwf hnames', List.append_nil]

/-! ## Names behind a directory -/

section Opening

variable {l : Location} {name : String}

/-- A last name leads to its place, whatever stands there. -/
theorem follow_last {links : Nat} {directory : Location} {name : String} (notHere : name ≠ ".")
    (notUp : name ≠ "..") (short : ¬ nameLimit < name.utf8ByteSize) :
    t.follow false links directory [name] = .ok (directory ++ [name]) := by
  rw [follow, if_neg notHere, if_neg notUp, if_neg short]
  split <;> simp [follow]

/-- Where a name leads from a directory, and what stands there. -/
def opened (t : Tree) (l : Location) (name : String) : Except Error (Location × Entry) :=
  if '\x00' ∈ name.toList then .error .nulInPath
  else if nameLimit < name.utf8ByteSize then .error .nameTooLong
  else match t.get? (l ++ [name]) with
    | some e => .ok (l ++ [name], e)
    | none => .error .notFound

/-- What a name is opened as stands at its place. -/
theorem eq_of_opened {e : Entry} {found : Location × Entry}
    (standing : t.get? (l ++ [name]) = some e) (h : t.opened l name = .ok found) :
    found = (l ++ [name], e) := by
  rw [opened, standing] at h
  split at h
  · cases h
  · split at h
    · cases h
    · exact (Except.ok.inj h).symm

theorem follow_here {links : Nat} {d : Location} {todo : List String}
    (ok : t.follow true links d todo = .ok l) (directory : t.get? l = some .directory) :
    t.follow true links d (todo ++ ["."]) = .ok l := by
  fun_induction Tree.follow t true links d todo with
  | case1 => rw [List.nil_append, Tree.follow, if_pos rfl, Tree.follow, ok]
  | case2 _ _ _ ih => rw [List.cons_append, Tree.follow, if_pos rfl, ih ok]
  | case3 _ _ _ notHere ih =>
      rw [List.cons_append, Tree.follow, if_neg notHere, if_pos rfl, ih ok]
  | case5 _ _ _ _ notHere notUp short standing ih =>
      rw [List.cons_append, Tree.follow, if_neg notHere, if_neg notUp, if_neg short, standing]
      exact ih ok
  | case6 => simp_all
  | case8 => simp_all
  | case10 => simp_all
  | case15 _ _ _ notHere notUp short _ standing notLast _ some ih =>
      rw [List.cons_append, Tree.follow, if_neg notHere, if_neg notUp, if_neg short, standing]
      simp only [if_neg some]
      rw [if_neg (by simp), ← List.append_assoc]
      exact ih ok
  | case4 | case7 | case9 | case11 | case13 | case14 => cases ok
  | case12 => simp_all

/-- What is followed by the directory itself is followed by its names. A link is one of
    them as long as it is not followed. -/
theorem follow_name {followLast : Bool} {links : Nat} {d : Location} {todo : List String}
    (h : Path.IsName name)
    (noLink : followLast = true → ∀ target, t.get? (l ++ [name]) ≠ some (.link target))
    (ok : t.follow true links d (todo ++ ["."]) = .ok l) :
    t.follow followLast links d (todo ++ [name]) =
      if nameLimit < name.utf8ByteSize then .error .nameTooLong else .ok (l ++ [name]) := by
  fun_induction Tree.follow t true links d todo with
  | case1 =>
      rw [List.nil_append, Tree.follow, if_pos rfl, Tree.follow] at ok
      cases ok
      rw [List.nil_append, Tree.follow, if_neg h.2.2.1, if_neg h.2.2.2]
      split
      · rfl
      · split <;> simp_all [Tree.follow]
  | case2 _ _ _ ih =>
      rw [List.cons_append, Tree.follow, if_pos rfl] at ok ⊢
      exact ih ok
  | case3 _ _ _ notHere ih =>
      rw [List.cons_append, Tree.follow, if_neg notHere, if_pos rfl] at ok ⊢
      exact ih ok
  | case5 _ _ _ _ notHere notUp short standing ih =>
      rw [List.cons_append, Tree.follow, if_neg notHere, if_neg notUp, if_neg short, standing] at ok ⊢
      exact ih ok
  | case15 _ _ _ notHere notUp short _ standing notLast _ some ih =>
      rw [List.cons_append, Tree.follow, if_neg notHere, if_neg notUp, if_neg short, standing] at ok ⊢
      simp only [if_neg some] at ok ⊢
      rw [if_neg (by simp), ← List.append_assoc] at ok ⊢
      exact ih ok
  | case12 _ _ _ _ _ _ _ _ _ last => exact absurd last.2 Bool.false_ne_true
  | case4 _ _ _ _ notHere notUp long =>
      rw [List.cons_append, Tree.follow, if_neg notHere, if_neg notUp, if_pos long] at ok
      cases ok
  | case6 _ _ _ notHere notUp short | case7 _ _ _ _ notHere notUp short
  | case8 _ _ _ notHere notUp short | case9 _ _ _ _ notHere notUp short
  | case10 _ _ _ notHere notUp short | case11 _ _ _ _ notHere notUp short
  | case13 _ _ _ notHere notUp short | case14 _ _ _ notHere notUp short =>
      rw [List.cons_append, Tree.follow, if_neg notHere, if_neg notUp, if_neg short] at ok
      simp_all

/-- Where a path leads there is a place to which its last name leads. -/
theorem follow_false {links : Nat} {d : Location} {todo : List String} {e : Entry}
    (ok : t.follow true links d todo = .ok l) (standing : t.get? l = some e) :
    ∃ l' e', t.follow false links d todo = .ok l' ∧ t.get? l' = some e' := by
  fun_induction Tree.follow t true links d todo with
  | case1 => exact ⟨_, _, by rw [Tree.follow, ok], standing⟩
  | case2 _ _ _ ih =>
      rw [Tree.follow, if_pos rfl]
      exact ih ok
  | case3 _ _ _ notHere ih =>
      rw [Tree.follow, if_neg notHere, if_pos rfl]
      exact ih ok
  | case5 _ _ _ _ notHere notUp short here ih =>
      rw [Tree.follow, if_neg notHere, if_neg notUp, if_neg short, here]
      exact ih ok
  | case6 _ _ _ notHere notUp short | case8 _ _ _ notHere notUp short
  | case10 _ _ _ notHere notUp short =>
      exact ⟨_, _, by rw [follow_last notHere notUp short, ok], standing⟩
  | case12 _ _ _ _ _ _ _ _ _ last => exact absurd last.2 Bool.false_ne_true
  | case15 _ _ rest notHere notUp short _ here _ _ some ih =>
      rw [Tree.follow, if_neg notHere, if_neg notUp, if_neg short, here]
      by_cases last : rest = []
      · exact ⟨_, _, if_pos ⟨last, rfl⟩, here⟩
      · simp only [last, false_and, if_false, if_neg some]
        exact ih ok
  | case4 | case7 | case9 | case11 | case13 | case14 => cases ok

theorem entry_eq_ok {p : Path} {followLast : Bool} {e : Entry} :
    t.entry working followLast p = .ok (l, e) ↔
      t.locate working followLast p = .ok l ∧ t.get? l = some e := by
  rw [entry]
  cases t.locate working followLast p with
  | error => simp [bind, Except.bind]
  | ok place =>
      change (match t.get? place with | some e => _ | none => _) = _ ↔ _
      cases h : t.get? place with
      | none => simp_all [throw, throwThe, MonadExceptOf.throw]; grind
      | some e' => simp [pure, Except.pure]; grind

/-- What a path that leads somewhere is followed by. -/
theorem follow_of_locate {p : Path} {followLast : Bool} (h : t.locate working followLast p = .ok l) :
    '\x00' ∉ p.chars ∧ p.text ≠ "" ∧
      t.follow followLast linkLimit (if isRooted p.text then [] else working) (steps p.text) = .ok l ∧
      p.text.utf8ByteSize ≤ pathLimit := by
  rw [locate, resolve] at h
  split at h
  · cases h
  · next noNul =>
      split at h
      · cases h
      · next short =>
          split at h
          · cases h
          · next nonempty => exact ⟨noNul, nonempty, h, Nat.not_lt.1 short⟩

theorem chars_ne_nil_of_entry {p : Path} {followLast : Bool} {e : Entry}
    (h : t.entry working followLast p = .ok (l, e)) : p.chars ≠ [] := fun blank =>
  (follow_of_locate (entry_eq_ok.1 h).1).2.1 (String.toList_eq_nil_iff.1 blank)

theorem locate_of_follow {p : Path} {followLast : Bool} (noNul : '\x00' ∉ p.chars)
    (short : p.text.utf8ByteSize ≤ pathLimit) (nonempty : p.text ≠ "") :
    t.locate working followLast p =
      t.follow followLast linkLimit (if isRooted p.text then [] else working) (steps p.text) := by
  rw [locate, if_neg noNul, if_neg (Nat.not_lt.2 short), resolve, if_neg nonempty]

section Join

variable {p : Path} (leads : t.entry working true p = .ok (l, .directory))
include leads

/-- A directory is there even if the link that leads to it is not followed. -/
theorem exists_entry_false : ∃ l' e', t.entry working false p = .ok (l', e') := by
  obtain ⟨located, standing⟩ := entry_eq_ok.1 leads
  obtain ⟨noNul, nonempty, followed, short⟩ := follow_of_locate located
  obtain ⟨l', e', followed', standing'⟩ := follow_false followed standing
  refine ⟨l', e', entry_eq_ok.2 ⟨?_, standing'⟩⟩
  rw [locate_of_follow noNul short nonempty, followed']

/-- From a directory a name leads to a place in it, however the directory is spelled. -/
theorem locate_join {followLast : Bool} (h : Path.IsName name)
    (noLink : followLast = true → ∀ target, t.get? (l ++ [name]) ≠ some (.link target))
    (short : (p.join ⟨name⟩).text.utf8ByteSize ≤ pathLimit) :
    t.locate working followLast (p.join ⟨name⟩) =
      if '\x00' ∈ name.toList then .error .nulInPath
      else if nameLimit < name.utf8ByteSize then .error .nameTooLong
      else .ok (l ++ [name]) := by
  obtain ⟨located, standing⟩ := entry_eq_ok.1 leads
  obtain ⟨noNul, nonempty, followed, -⟩ := follow_of_locate located
  obtain ⟨rooted, before, whole, start⟩ := steps_join nonempty h
  have inner : t.follow true linkLimit (if isRooted p.text then [] else working) (before ++ ["."]) =
      .ok l := by
    rcases start with start | start
    · rw [start] at followed
      exact follow_here followed standing
    · rw [← start, followed]
  have nul : '\x00' ∈ (p.join ⟨name⟩).chars ↔ '\x00' ∈ name.toList := by
    have outside : '\x00' ∉ p.text.toList := noNul
    rw [Path.join_eq_of_relative h.relative]
    split <;> simp [Path.chars, outside]
  have joined : (p.join ⟨name⟩).text ≠ "" := by
    have some : p.chars ≠ [] := fun empty => nonempty (String.toList_eq_nil_iff.1 empty)
    exact fun empty => Path.join_chars_ne_nil some (String.toList_eq_nil_iff.2 empty)
  by_cases inName : '\x00' ∈ name.toList
  · rw [if_pos inName, locate, if_pos (nul.2 inName)]
  · rw [if_neg inName, locate_of_follow (fun h => inName (nul.1 h)) short joined, rooted, whole,
      follow_name h noLink inner]

/-- From a directory a name that is no link leads to what is there, however the directory
    is spelled. -/
theorem entry_join (h : Path.IsName name) (noLink : ∀ target, t.get? (l ++ [name]) ≠ some (.link target))
    (short : (p.join ⟨name⟩).text.utf8ByteSize ≤ pathLimit) :
    t.entry working true (p.join ⟨name⟩) = t.opened l name := by
  rw [entry, locate_join leads h (fun _ => noLink) short, opened]
  split
  · rfl
  · split <;> rfl

/-- What is located by a name in a directory is the place with this name there. -/
theorem eq_of_locate_join {place : Location} (h : Path.IsName name)
    (located : t.locate working false (p.join ⟨name⟩) = .ok place) : place = l ++ [name] := by
  obtain ⟨-, -, -, short⟩ := follow_of_locate located
  rw [locate_join leads h (fun follows => absurd follows Bool.false_ne_true) short] at located
  split at located
  · cases located
  · split at located
    · cases located
    · exact (Except.ok.inj located).symm

end Join

/-- A walk finds a file by a name in a directory. -/
theorem Walked.exists_directory (h : Walked t working followLinks directory names) :
    ∃ dirs name place, names = dirs ++ [name] ∧
      t.entry working true (directory.descend dirs) = .ok (place, .directory) := by
  induction h with
  | file opens _ _ => exact ⟨[], _, _, rfl, opens⟩
  | @inside directory place name e names _ _ _ _ ih =>
      obtain ⟨dirs, last, place, rfl, found⟩ := ih
      exact ⟨name :: dirs, last, place, rfl, found⟩

/-- A walk that does not follow links finds a file in a directory at the place that is
    named by the directories on the way. -/
theorem Walked.leads (hwf : t.WellFormed) (h : Walked t working false directory names) :
    ∃ place dirs name, names = dirs ++ [name] ∧
      t.entry working true directory = .ok (place, .directory) ∧
      t.entry working true (directory.descend dirs) = .ok (place ++ dirs, .directory) := by
  induction h with
  | @file directory place name _ _ _ opens _ _ =>
      exact ⟨place, [], name, rfl, opens, by rw [List.append_nil]; exact opens⟩
  | @inside directory place name e names opens hname hseen _ ih =>
      obtain ⟨inner, dirs, last, rfl, opensInner, found⟩ := ih
      have here := mem_entries_of_mem_children hname
      have standing := hwf.get?_child hname
      obtain rfl : e = .directory := by
        cases e with
        | directory => rfl
        | file | device | link => cases hseen
      obtain ⟨-, -, -, short⟩ := follow_of_locate (entry_eq_ok.1 opensInner).1
      have joined : t.entry working true (directory.join ⟨name⟩) = t.opened place name :=
        entry_join opens (hwf.named _ here name (by simp)) (by simp [standing]) short
      obtain rfl : inner = place ++ [name] :=
        congrArg Prod.fst (eq_of_opened standing (joined.symm.trans opensInner))
      refine ⟨place, name :: dirs, last, rfl, opens, ?_⟩
      rw [List.append_cons]
      exact found

/-- What a walk finds without following links is what lies below the root, and not too
    many levels down. -/
theorem descend_mem_filesWithin {root : Path} {names : List String} {depth : Nat} (hwf : t.WellFormed)
    (nonempty : root.chars ≠ []) (some : names ≠ []) (named : ∀ n ∈ names, Path.IsName n) :
    root.descend names ∈ t.filesWithin working root false depth ↔
      names.length ≤ depth ∧ Walked t working false root names := by
  constructor
  · intro found
    obtain ⟨names', same, ⟨rfl, -⟩ | ⟨few, hnames⟩⟩ := mem_filesWithin found
    · exact absurd (Path.descend_injective nonempty named (by simp) (congrArg Path.components same)) some
    · obtain rfl := Path.descend_injective nonempty named (hnames.named hwf)
        (congrArg Path.components same)
      exact ⟨few, hnames⟩
  · rintro ⟨few, hnames⟩
    have opens : ∃ place, t.entry working true root = .ok (place, .directory) := by
      cases hnames with
      | file opened | inside opened => exact ⟨_, opened⟩
    obtain ⟨place, opened⟩ := opens
    obtain ⟨l', e', there⟩ := exists_entry_false opened
    have below : t.filesWithin working root false depth = t.filesBelow working false depth root [] := by
      rw [filesWithin, there, opened]
      cases e' <;> rfl
    rw [below]
    exact hnames.mem_filesBelow few

end Opening

/-! ## Walking below a place -/

section Below

variable {l : Location} {name : String}

/-- The names that lead from a place without links to the files below it, as many levels
    deep as given. -/
def namesBelow (t : Tree) : Nat → Location → List (List String)
  | 0, _ => []
  | depth + 1, l => (t.children l).flatMap fun (name, e) =>
    match e with
    | .file .. => [[name]]
    | .directory =>
      match t.opened l name with
      | .ok _ => (t.namesBelow depth (l ++ [name])).map (name :: ·)
      | .error _ => []
    | _ => []

/-- No links stand at or below a place. -/
def LinkFree (t : Tree) (l : Location) : Prop := ∀ names target, (l ++ names, .link target) ∉ t.entries

/-- Whatever stands below the place of a directory has a path from there that is not too long. -/
def Within (t : Tree) (l : Location) (p : Path) : Prop :=
  ∀ names e, (l ++ names, e) ∈ t.entries → (p.descend names).text.utf8ByteSize ≤ pathLimit

theorem filesBelow_eq {followLinks : Bool} {depth : Nat} {p : Path} {above : List Location}
    (hwf : t.WellFormed) (leads : t.entry working true p = .ok (l, .directory))
    (linkFree : t.LinkFree l) (short : t.Within l p) :
    t.filesBelow working followLinks depth p above = (t.namesBelow depth l).map p.descend := by
  induction depth generalizing p l above with
  | zero => simp [filesBelow, namesBelow]
  | succ depth ih =>
      rw [filesBelow_of_directory leads, namesBelow, List.map_flatMap]
      refine List.flatMap_congr fun child hname => ?_
      obtain ⟨name, e⟩ := child
      have here := mem_entries_of_mem_children hname
      have standing := hwf.get?_child hname
      cases e with
      | file | device => rfl
      | link target => exact absurd here (linkFree [name] target)
      | directory =>
          have opens : t.entry working true (p.join ⟨name⟩) = t.opened l name :=
            entry_join leads (hwf.named _ here name (by simp)) (by simp [standing])
              (short [name] .directory here)
          simp only
          cases hopened : t.opened l name with
          | error e =>
              rw [hopened] at opens
              rw [filesBelow.eq_def, opens]
              cases depth <;> rfl
          | ok found =>
              obtain rfl := eq_of_opened standing hopened
              have below : t.filesBelow working followLinks depth (p.join ⟨name⟩) (l :: above) =
                  (t.namesBelow depth (l ++ [name])).map (p.join ⟨name⟩).descend :=
                ih (opens.trans hopened)
                  (fun names target => by simpa using linkFree (name :: names) target)
                  (fun names e h => short (name :: names) e (by simpa using h))
              rw [below, List.map_map]
              rfl

theorem mem_namesBelow {depth : Nat} {names : List String} (h : names ∈ t.namesBelow depth l) :
    names ≠ [] ∧ ∃ bytes executable, (l ++ names, .file bytes executable) ∈ t.entries := by
  induction depth generalizing l names with
  | zero => cases h
  | succ depth ih =>
      rw [namesBelow] at h
      obtain ⟨⟨name, e⟩, hname, h⟩ := List.mem_flatMap.1 h
      have here := mem_entries_of_mem_children hname
      cases e with
      | link | device => cases h
      | file bytes executable =>
          obtain rfl := List.mem_singleton.1 h
          exact ⟨List.cons_ne_nil _ _, bytes, executable, here⟩
      | directory =>
          simp only at h
          split at h
          · obtain ⟨rest, hrest, rfl⟩ := List.mem_map.1 h
            obtain ⟨-, bytes, executable, hfile⟩ := ih hrest
            exact ⟨List.cons_ne_nil _ _, bytes, executable, by simpa using hfile⟩
          · cases h

section Spellings

variable {p q : Path} {depth : Nat} {names : List String} (hwf : t.WellFormed)
  (leads : t.entry working true p = .ok (l, .directory)) (linkFree : t.LinkFree l)
  (short : t.Within l p)
include hwf leads linkFree short

/-- A walk from a directory without links finds what stands below its place. -/
theorem files_eq (followLinks : Bool) :
    t.files working p followLinks = (t.namesBelow t.walkDepth l).map p.descend := by
  obtain ⟨l', e', there⟩ := exists_entry_false leads
  rw [files, filesWithin, there, leads]
  cases e' <;> exact filesBelow_eq hwf leads linkFree short

/-- What a walk finds is the same file from every spelling of its directory. -/
theorem entry_descend_congr (leads' : t.entry working true q = .ok (l, .directory))
    (short' : t.Within l q) (h : names ∈ t.namesBelow depth l) :
    t.entry working true (p.descend names) = t.entry working true (q.descend names) := by
  induction depth generalizing p q l names with
  | zero => cases h
  | succ depth ih =>
      rw [namesBelow] at h
      obtain ⟨⟨name, e⟩, hname, h⟩ := List.mem_flatMap.1 h
      have here := mem_entries_of_mem_children hname
      have standing := hwf.get?_child hname
      have isName := hwf.named _ here name (by simp)
      have noLink : ∀ target, t.get? (l ++ [name]) ≠ some (.link target) := by
        rintro target link
        rw [standing] at link
        cases link
        exact linkFree [name] target here
      have opens := entry_join leads isName noLink (short [name] e here)
      have opens' := entry_join leads' isName noLink (short' [name] e here)
      cases e with
      | link | device => cases h
      | file bytes executable =>
          obtain rfl := List.mem_singleton.1 h
          exact opens.trans opens'.symm
      | directory =>
          simp only at h
          split at h
          · next found hopened =>
              obtain rfl := eq_of_opened standing hopened
              obtain ⟨rest, hrest, rfl⟩ := List.mem_map.1 h
              exact ih (p := p.join ⟨name⟩) (q := q.join ⟨name⟩) (opens.trans hopened)
                (fun names target => by simpa using linkFree (name :: names) target)
                (fun names e h => short (name :: names) e (by simpa using h))
                (opens'.trans hopened)
                (fun names e h => short' (name :: names) e (by simpa using h)) hrest
          · cases h

end Spellings

end Below

end Tree

end CompileTree.Files
