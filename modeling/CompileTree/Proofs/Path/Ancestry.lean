import CompileTree.Proofs.Path.Normal
import Mathlib.Data.List.Infix

/-! # A path and the directories above it

The directories above an absolute path in normal form are spelled by the
beginnings of its steps.
-/

namespace CompileTree.Path

/-- An absolute text in normal form and the directories above it, the root first. -/
def ancestry (text : List Char) : List (List Char) :=
  ((text.splitOn '/').filter (· ≠ [])).inits.map absoluteText

/-- Steps of absolute texts in normal form. -/
def Steps (names : List (List Char)) : Prop := ∀ name ∈ names, Plain name ∧ name ≠ []

theorem Steps.left {names more : List (List Char)} (h : Steps (names ++ more)) : Steps names :=
  fun name hname => h name (List.mem_append_left _ hname)

theorem Steps.right {names more : List (List Char)} (h : Steps (names ++ more)) : Steps more :=
  fun name hname => h name (List.mem_append_right _ hname)

theorem Steps.append {names more : List (List Char)} (h : Steps names) (h' : Steps more) :
    Steps (names ++ more) :=
  List.forall_mem_append.2 ⟨h, h'⟩

theorem steps_isSteps (cs : List Char) : Steps (steps cs) := fun name hname =>
  ⟨(forall_mem_steps cs name hname).1, (forall_mem_steps cs name hname).2.1⟩

theorem splitOn_absoluteText {names : List (List Char)} (h : Steps names) :
    ((absoluteText names).splitOn '/').filter (· ≠ []) = names := by
  rw [absoluteText, List.splitOn_cons_eq_if_modifyHead, if_pos (by decide)]
  by_cases nonempty : names = []
  · subst nonempty
    rfl
  · rw [List.splitOn_intercalate _ (fun name hname => (h name hname).1.1) nonempty,
      List.filter_cons_of_neg (by simp), List.filter_eq_self]
    intro name hname
    simpa using (h name hname).2

theorem absoluteText_inj {names more : List (List Char)} (h : Steps names) (h' : Steps more) :
    absoluteText names = absoluteText more ↔ names = more := by
  constructor
  · intro same
    rw [← splitOn_absoluteText h, same, splitOn_absoluteText h']
  · rintro rfl
    rfl

theorem mem_ancestry {names : List (List Char)} {y : List Char} (h : Steps names) :
    y ∈ ancestry (absoluteText names) ↔ ∃ init more, names = init ++ more ∧ y = absoluteText init := by
  rw [ancestry, splitOn_absoluteText h, List.mem_map]
  constructor
  · rintro ⟨init, hinit, rfl⟩
    obtain ⟨more, hmore⟩ := (List.mem_inits _ _).1 hinit
    exact ⟨init, more, hmore.symm, rfl⟩
  · rintro ⟨init, more, rfl, rfl⟩
    exact ⟨init, (List.mem_inits _ _).2 (List.prefix_append ..), rfl⟩

theorem intercalate_append {names more : List (List Char)} (hnames : names ≠ []) (hmore : more ≠ []) :
    ['/'].intercalate (names ++ more) = ['/'].intercalate names ++ absoluteText more := by
  induction names with
  | nil => exact absurd rfl hnames
  | cons name names ih =>
      rw [List.cons_append, List.intercalate_cons_of_ne_nil (by simp [hmore])]
      by_cases last : names = []
      · subst last
        simp [absoluteText]
      · rw [ih last, List.intercalate_cons_of_ne_nil last]
        simp

/-- Steps in front of others, each with the separator behind it. -/
theorem intercalate_append_of_ne_nil {names more : List (List Char)} (hmore : more ≠ []) :
    ['/'].intercalate (names ++ more) = names.flatMap (· ++ ['/']) ++ ['/'].intercalate more := by
  induction names with
  | nil => rfl
  | cons name names ih =>
      rw [List.cons_append, List.intercalate_cons_of_ne_nil (by simp [hmore]), ih, List.flatMap_cons,
        List.append_assoc (name ++ ['/'])]

theorem absoluteText_append {names more : List (List Char)} (hnames : names ≠ []) (hmore : more ≠ []) :
    absoluteText (names ++ more) = absoluteText names ++ absoluteText more := by
  rw [absoluteText, intercalate_append hnames hmore]
  rfl

theorem count_slash_absoluteText {names : List (List Char)} (h : Steps names) (below : names ≠ []) :
    (absoluteText names).count '/' = names.length := by
  induction names with
  | nil => exact absurd rfl below
  | cons name names ih =>
      obtain ⟨⟨⟨noSlash, -⟩, -⟩, hnames⟩ := List.forall_mem_cons.1 h
      have first : (absoluteText [name]).count '/' = 1 := by
        simp [absoluteText, List.count_eq_zero_of_not_mem noSlash]
      by_cases last : names = []
      · rw [last, first]
        rfl
      · rw [← List.singleton_append, absoluteText_append (by simp) last, List.count_append, first,
          ih hnames last, List.length_append, List.length_singleton]

theorem absoluteText_prefix (names more : List (List Char)) :
    ∃ z, absoluteText (names ++ more) = absoluteText names ++ z := by
  match names, more with
  | names, [] => exact ⟨[], by simp⟩
  | [], more => exact ⟨['/'].intercalate more, rfl⟩
  | name :: names, m :: more => exact ⟨_, absoluteText_append (by simp) (by simp)⟩

/-- Where an absolute text is cut at a separator behind the root, its steps are cut. -/
theorem absoluteText_eq_append {names : List (List Char)} {y z : List Char} (h : Steps names)
    (cut : absoluteText names = y ++ '/' :: z) (below : y ≠ []) :
    ∃ init more, names = init ++ more ∧ init ≠ [] ∧ more ≠ [] ∧ y = absoluteText init := by
  cases y with
  | nil => exact absurd rfl below
  | cons c y =>
      obtain ⟨rfl, joined⟩ := List.cons_eq_cons.1 cut
      have nonempty : names ≠ [] := by
        rintro rfl
        simp at joined
      have split : names = y.splitOn '/' ++ z.splitOn '/' := by
        rw [← List.splitOn_append_cons_self, ← List.append_eq, ← joined,
          List.splitOn_intercalate _ (fun name hname => (h name hname).1.1) nonempty]
      exact ⟨_, _, split, List.splitOn_ne_nil _ _, List.splitOn_ne_nil _ _, by simp [absoluteText]⟩

theorem intercalate_ne_nil {names : List (List Char)} (h : Steps names) (nonempty : names ≠ []) :
    ['/'].intercalate names ≠ [] := by
  rw [ne_eq, intercalate_eq_nil_iff fun name hname => (h name hname).2]
  exact nonempty

/-- A normal form is the root, if it has one, and its first steps in front of the others. -/
theorem normalChars_of_steps_append {cs : List Char} {names more : List (List Char)}
    (folded : steps cs = names ++ more) (some : more ≠ []) :
    normalChars cs = (if rooted cs then ['/'] else []) ++ names.flatMap (· ++ ['/']) ++
      ['/'].intercalate more := by
  rw [List.append_assoc, ← intercalate_append_of_ne_nil some, ← folded]
  cases h : rooted cs with
  | true => exact normalChars_of_rooted h
  | false =>
      have spelled := intercalate_ne_nil (steps_isSteps cs) (by simp [folded, some])
      rw [normalChars_of_not_rooted h, if_neg spelled]
      rfl

theorem getLast?_intercalate {names : List (List Char)} (h : Steps names) :
    (['/'].intercalate names).getLast? ≠ some '/' := by
  induction names with
  | nil => simp
  | cons name names ih =>
      obtain ⟨⟨noSlash, -⟩, nonempty⟩ := h name List.mem_cons_self
      by_cases last : names = []
      · subst last
        rw [List.intercalate_singleton]
        exact fun slash => noSlash (List.mem_of_getLast? slash)
      · have behind : Steps names := fun n hn => h n (List.mem_cons_of_mem name hn)
        have more := ih behind
        have rest := intercalate_ne_nil behind last
        rw [List.intercalate_cons_of_ne_nil last, List.getLast?_append_of_ne_nil _ rest]
        exact more

theorem getLast?_absoluteText {names : List (List Char)} (h : Steps names) (nonempty : names ≠ []) :
    (absoluteText names).getLast? = (['/'].intercalate names).getLast? := by
  obtain ⟨d, ds, hds⟩ := List.exists_cons_of_ne_nil (intercalate_ne_nil h nonempty)
  rw [absoluteText, hds, List.getLast?_cons_cons]

end CompileTree.Path
