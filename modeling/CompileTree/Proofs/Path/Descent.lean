import CompileTree.Proofs.Path.Components

/-! # Going down from a directory

Joining names to a directory one after the other leads to a path whose components
are those of the directory and the names, the last of which stands at the end of its
text. From its directory it is spelled by the names alone, and if they hold no backslash
and the directory is spelled directly, its normal form denotes the same place
(`isDirect_descend`).
-/

namespace CompileTree.Path

/-- A name under which a directory can hold something. -/
def IsName (name : String) : Prop := name ≠ "" ∧ '/' ∉ name.toList ∧ name ≠ "." ∧ name ≠ ".."

instance (name : String) : Decidable (IsName name) := inferInstanceAs (Decidable (_ ∧ _))

/-- The path that names lead to from a directory. -/
def descend (p : Path) (names : List String) : Path := names.foldl (fun p name => p.join ⟨name⟩) p

/-- The components that a relative path adds to what it is joined to. -/
def added (r : Path) : List Component := (r.chars.splitOn '/').filterMap Component.ofPiece

section Joining

variable {p r : Path}

theorem leadOf_append_left {a b : List (List Char)} (ha : a ≠ []) (named : a ≠ [[]]) :
    leadOf (a ++ b) = leadOf a := by
  obtain ⟨x, xs, rfl⟩ := List.exists_cons_of_ne_nil ha
  cases x with
  | nil =>
      cases xs with
      | nil => exact absurd rfl named
      | cons y ys => rfl
  | cons c cs =>
      rw [List.cons_append, leadOf.eq_def, leadOf.eq_def]
      split <;> simp_all

theorem splitOn_ne_singleton_nil {cs : List Char} (nonempty : cs ≠ []) : cs.splitOn '/' ≠ [[]] := by
  intro h
  have joined : ['/'].intercalate (cs.splitOn '/') = cs := List.intercalate_splitOn '/'
  rw [h] at joined
  exact nonempty joined.symm

/-- A relative path adds its components to those of the path it is joined to. -/
theorem components_join (nonempty : p.chars ≠ []) (relative : r.isAbsolute = false) :
    (p.join r).components = p.components ++ r.added := by
  rw [join, relative, if_neg (by decide), components, components, added]
  by_cases ends : p.chars.getLast? = some '/'
  · obtain ⟨y, hy⟩ := List.getLast?_eq_some_iff.1 ends
    have joined : (Path.mk (p.text ++ r.text)).chars = y ++ '/' :: r.chars := by
      rw [show (Path.mk (p.text ++ r.text)).chars = p.chars ++ r.chars by simp [chars], hy]
      simp
    have before := List.splitOn_ne_nil '/' y
    rw [if_pos (by simp [ends]), joined, hy, componentsOf_eq, componentsOf_eq,
      List.splitOn_append_cons_self, List.splitOn_append_cons_self,
      leadOf_append before (List.splitOn_ne_nil '/' r.chars) (List.splitOn_ne_nil '/' []),
      List.filterMap_append, List.filterMap_append]
    simp [Component.ofPiece]
  · have joined : (Path.mk (p.text ++ "/" ++ r.text)).chars = p.chars ++ '/' :: r.chars := by
      simp [chars]
    rw [if_neg (by simp [ends, nonempty]), joined, componentsOf_eq, componentsOf_eq,
      List.splitOn_append_cons_self, leadOf_append_left (List.splitOn_ne_nil '/' p.chars)
        (splitOn_ne_singleton_nil nonempty), List.filterMap_append, List.append_assoc]

/-- A separator at the end of a path is no component of it. -/
theorem componentsOf_append_slash {cs : List Char} (nonempty : cs ≠ []) :
    componentsOf (cs ++ ['/']) = componentsOf cs := by
  rw [componentsOf_eq, componentsOf_eq, List.splitOn_append_cons_self,
    leadOf_append_left (List.splitOn_ne_nil '/' cs) (splitOn_ne_singleton_nil nonempty),
    List.filterMap_append]
  exact congrArg _ (List.append_nil _)

end Joining

/-! ## Names -/

section Names

variable {p : Path} {name : String} {names : List String}

theorem IsName.ofPiece (h : IsName name) : Component.ofPiece name.toList = some (.name name) := by
  obtain ⟨nonempty, -, notHere, notUp⟩ := h
  rw [Component.ofPiece.eq_def]
  split
  · next empty => exact absurd (String.toList_eq_nil_iff.1 empty) nonempty
  · next here => exact absurd (String.toList_injective here) notHere
  · next up => exact absurd (String.toList_injective up) notUp
  · rw [String.ofList_toList]

theorem IsName.added (h : IsName name) : added ⟨name⟩ = [.name name] := by
  rw [Path.added, chars, List.splitOn_eq_singleton h.2.1, List.filterMap_cons_some h.ofPiece,
    List.filterMap_nil]

theorem IsName.relative (h : IsName name) : (Path.mk name).isAbsolute = false := by
  rw [isAbsolute, beq_eq_false_iff_ne]
  exact fun slash => h.2.1 (List.mem_of_head? slash)

theorem join_chars_ne_nil {q : Path} (nonempty : p.chars ≠ []) : (p.join q).chars ≠ [] := by
  rw [join]
  split
  · next absolute =>
      intro empty
      simp [isAbsolute, empty] at absolute
  · split <;> simp_all [chars]

theorem descend_cons : p.descend (name :: names) = (p.join ⟨name⟩).descend names := rfl

theorem descend_append {more : List String} :
    p.descend (names ++ more) = (p.descend names).descend more := List.foldl_append

theorem descend_chars_ne_nil (nonempty : p.chars ≠ []) : (p.descend names).chars ≠ [] := by
  induction names generalizing p with
  | nil => exact nonempty
  | cons name names ih => exact ih (join_chars_ne_nil nonempty)

theorem components_descend (nonempty : p.chars ≠ []) (h : ∀ name ∈ names, IsName name) :
    (p.descend names).components = p.components ++ names.map .name := by
  induction names generalizing p with
  | nil => simp [descend]
  | cons name names ih =>
      obtain ⟨hname, hnames⟩ := List.forall_mem_cons.1 h
      rw [descend_cons, ih (join_chars_ne_nil nonempty) hnames,
        components_join nonempty hname.relative, hname.added]
      simp

theorem map_name_injective {a b : List String} (h : a.map Component.name = b.map Component.name) :
    a = b :=
  List.map_injective_iff.2 (fun _ _ same => Component.name.inj same) h

/-- Names that lead to one place are the same. -/
theorem descend_injective {more : List String} (nonempty : p.chars ≠ [])
    (h : ∀ name ∈ names, IsName name) (h' : ∀ name ∈ more, IsName name)
    (same : (p.descend names).components = (p.descend more).components) : names = more := by
  rw [components_descend nonempty h, components_descend nonempty h'] at same
  exact map_name_injective (List.append_cancel_left same)

theorem isPrefixOf?_append (a b : List Component) : a.isPrefixOf? (a ++ b) = some b := by
  induction a with
  | nil => rfl
  | cons c a ih => rw [List.cons_append, List.isPrefixOf?, beq_self_eq_true, if_pos rfl, ih]

theorem below?_descend (nonempty : p.chars ≠ []) (h : ∀ name ∈ names, IsName name) :
    p.below? (p.descend names) = some (names.map .name) := by
  rw [below?, components_descend nonempty h]
  exact isPrefixOf?_append _ _

/-- From its directory a place is spelled by the names that lead to it. -/
theorem relativeName?_descend (nonempty : p.chars ≠ []) (h : ∀ name ∈ names, IsName name) :
    p.relativeName? (p.descend names) = if names = [] then none else some ("/".intercalate names) := by
  rw [relativeName?, below?_descend nonempty h]
  cases names with
  | nil => rfl
  | cons name names =>
      have labels : ((name :: names).map Component.name).map Component.label = name :: names := by
        rw [List.map_map]
        exact List.map_id _
      exact congrArg (fun spelled => some ("/".intercalate spelled)) labels

/-- A chain goes down from its first path. -/
theorem ofChain_cons : ofChain (p.text :: names) = p.descend names := by
  have start : (Path.mk "").join p = p := by
    rw [join]
    split
    · rfl
    · simp [chars]
  rw [ofChain, List.foldl_cons, start, descend]

theorem join_eq_of_relative {q : Path} (relative : q.isAbsolute = false) :
    p.join q = if p.chars = [] ∨ p.chars.getLast? = some '/' then ⟨p.text ++ q.text⟩
      else ⟨p.text ++ "/" ++ q.text⟩ := by
  rw [join, relative, if_neg (by decide)]
  simp

theorem IsName.relative_append (h : IsName name) (rest : String) :
    (Path.mk (name ++ rest)).isAbsolute = false := by
  have nonempty : name.toList ≠ [] := fun empty => h.1 (String.toList_eq_nil_iff.1 empty)
  have first := h.relative
  rw [isAbsolute, chars] at first ⊢
  simpa [List.head?_append_of_ne_nil _ nonempty] using first

theorem IsName.join_append {rest : String} (h : IsName name)
    (relative : (Path.mk rest).isAbsolute = false) :
    p.join ⟨name ++ "/" ++ rest⟩ = (p.join ⟨name⟩).join ⟨rest⟩ := by
  have nonempty : name.toList ≠ [] := fun empty => h.1 (String.toList_eq_nil_iff.1 empty)
  have last : name.toList.getLast? ≠ some '/' := fun slash => h.2.1 (List.mem_of_getLast? slash)
  have closed : ∀ before : String, (Path.mk (before ++ name)).join ⟨rest⟩ =
      ⟨before ++ name ++ "/" ++ rest⟩ := by
    intro before
    rw [join_eq_of_relative relative, if_neg]
    simp [chars, nonempty, List.getLast?_append_of_ne_nil _ nonempty, last]
  have whole : (Path.mk (name ++ "/" ++ rest)).isAbsolute = false := by
    rw [String.append_assoc]
    exact h.relative_append _
  rw [join_eq_of_relative whole, join_eq_of_relative h.relative]
  split <;> rw [closed] <;> simp only [String.append_assoc]

theorem relative_intercalate (h : ∀ name ∈ names, IsName name) :
    (Path.mk ("/".intercalate names)).isAbsolute = false := by
  match names, h with
  | [], _ => rfl
  | [name], h => simpa using (h name (by simp)).relative
  | name :: next :: names, h =>
      rw [String.intercalate_cons_cons, String.append_assoc]
      exact (h name (by simp)).relative_append _

/-- Joining names that are put together leads where going down by them does. -/
theorem join_intercalate (h : ∀ name ∈ names, IsName name) (some : names ≠ []) :
    p.join ⟨"/".intercalate names⟩ = p.descend names := by
  induction names generalizing p with
  | nil => exact absurd rfl some
  | cons name names ih =>
      obtain ⟨hname, hnames⟩ := List.forall_mem_cons.1 h
      cases names with
      | nil => simp [descend]
      | cons next names =>
          rw [descend_cons, ← ih hnames (List.cons_ne_nil next names), String.intercalate_cons_cons,
            hname.join_append (relative_intercalate hnames)]

end Names

/-! ## The last name of a path -/

section LastName

variable {p : Path} {name : String} {names : List String} {before start last word : List Char}

/-- A beginning of a text after which a name can stand: nothing, or up to a separator. -/
def Opens (cs : List Char) : Prop := cs = [] ∨ ∃ start, cs = start ++ ['/']

/-- A text is cut behind its last separator. -/
theorem exists_opens (cs : List Char) :
    ∃ before last, cs = before ++ last ∧ Opens before ∧ '/' ∉ last := by
  induction cs with
  | nil => exact ⟨[], [], rfl, .inl rfl, List.not_mem_nil⟩
  | cons c cs ih =>
      obtain ⟨before, last, rfl, rfl | ⟨start, rfl⟩, plain⟩ := ih
      · by_cases slash : c = '/'
        · exact ⟨[c], last, rfl, .inr ⟨[], by rw [slash]; rfl⟩, plain⟩
        · have plain' : '/' ∉ c :: last := by simpa [Ne.symm slash] using plain
          exact ⟨[], c :: last, rfl, .inl rfl, plain'⟩
      · exact ⟨c :: (start ++ ['/']), last, rfl, .inr ⟨c :: start, rfl⟩, plain⟩

theorem componentsOf_append_last (plain : '/' ∉ last) :
    componentsOf (start ++ ['/'] ++ last) =
      componentsOf (start ++ ['/']) ++ (Component.ofPiece last).toList := by
  have counted : [last].filterMap Component.ofPiece = (Component.ofPiece last).toList := by
    cases h : Component.ofPiece last with
    | none => rw [List.filterMap_cons_none h]; rfl
    | some c => rw [List.filterMap_cons_some h]; rfl
  rw [List.append_assoc, List.singleton_append, componentsOf_eq, componentsOf_eq,
    List.splitOn_append_cons_self, List.splitOn_append_cons_self, List.splitOn_eq_singleton plain,
    List.filterMap_append, List.filterMap_append, counted,
    leadOf_append (List.splitOn_ne_nil '/' start) (List.cons_ne_nil last [])
      (List.splitOn_ne_nil '/' [])]
  simp [Component.ofPiece]

/-- A name at the end of a text is its last component. -/
theorem componentsOf_append_name (opens : Opens before) (h : IsName name) :
    componentsOf (before ++ name.toList) = componentsOf before ++ [.name name] := by
  rcases opens with rfl | ⟨start, rfl⟩
  · have noLead : leadOf [name.toList] = [] := by
      have notHere : name.toList ≠ ['.'] := fun here => h.2.2.1 (String.toList_injective here)
      rw [leadOf.eq_def]
      split <;> simp_all
    rw [List.nil_append, componentsOf_eq, List.splitOn_eq_singleton h.2.1, noLead,
      List.filterMap_cons_some h.ofPiece]
    rfl
  · rw [componentsOf_append_last h.2.1, h.ofPiece]
    rfl

/-- A text that ends behind a separator ends with the same words as what stands there. -/
theorem Opens.suffix_append_iff (opens : Opens before) (plain : '/' ∉ word) :
    word <:+ before ++ last ↔ word <:+ last := by
  constructor
  · intro ends
    rcases opens with rfl | ⟨start, rfl⟩
    · exact ends
    · rw [List.append_assoc, List.singleton_append] at ends
      rcases List.suffix_or_suffix_of_suffix ends (List.suffix_append start ('/' :: last)) with short | long
      · rcases List.suffix_cons_iff.1 short with rfl | short
        · exact absurd List.mem_cons_self plain
        · exact short
      · -- A longer word reaches over the separator, so it would hold it.
        exact absurd (long.subset List.mem_cons_self) plain
  · exact fun ends => ends.trans (List.suffix_append before last)

/-- A name that is joined to a path stands at the end of its text. -/
theorem IsName.exists_opens (h : IsName name) :
    ∃ before, (p.join ⟨name⟩).chars = before ++ name.toList ∧ Opens before := by
  rw [join_eq_of_relative h.relative]
  split
  · next opens =>
      exact ⟨p.chars, by simp [chars], opens.imp_right List.getLast?_eq_some_iff.1⟩
  · exact ⟨p.chars ++ ['/'], by simp [chars], .inr ⟨_, rfl⟩⟩

theorem IsName.fileName?_join (h : IsName name) : (p.join ⟨name⟩).fileName? = some name := by
  obtain ⟨before, spelled, opens⟩ := h.exists_opens (p := p)
  rw [fileName?, components, spelled, componentsOf_append_name opens h, List.getLast?_concat]

/-- Wherever names lead to, the last one is the name of the place. -/
theorem fileName?_descend (h : ∀ name ∈ names, IsName name) (some : names ≠ []) :
    (p.descend names).fileName? = names.getLast? := by
  obtain ⟨dirs, name, rfl⟩ := (List.eq_nil_or_concat' names).resolve_left some
  rw [descend_append, List.getLast?_concat]
  exact (h name (by simp)).fileName?_join

end LastName

/-! ## Normal forms -/

section NormalForms

variable {p q : Path} {names : List String}

/-- One place has one normal form. -/
theorem normal_congr (same : p.components = q.components) : p.normal = q.normal := by
  have folded : normalChars p.chars = normalChars q.chars :=
    normalChars_congr (rooted_congr same) (steps_congr same)
  exact congrArg (fun cs => Path.mk (String.ofList cs)) folded

theorem chars_ne_nil_of_isAbsolute (absolute : p.isAbsolute = true) : p.chars ≠ [] := by
  intro empty
  rw [isAbsolute, empty] at absolute
  cases absolute

theorem componentsOf_absoluteText {names : List (List Char)} (plain : ∀ name ∈ names, '/' ∉ name) :
    componentsOf (absoluteText names) = .root :: names.filterMap Component.ofPiece := by
  rw [componentsOf_eq, absoluteText, splitOn_slash_cons]
  by_cases empty : names = []
  · subst empty
    rfl
  · obtain ⟨name, rest, rfl⟩ := List.exists_cons_of_ne_nil empty
    rw [List.splitOn_intercalate _ plain empty]
    rfl

/-- The components of an absolute path in normal form are its steps. -/
theorem components_of_normal (absolute : p.isAbsolute = true) (normal : p.normal = p) :
    p.components = .root :: (steps p.chars).filterMap Component.ofPiece := by
  have root : rooted p.chars = true := isAbsolute_normal.1 (normal.symm ▸ absolute)
  have spelled : p.chars = absoluteText (steps p.chars) := by
    rw [← normalChars_of_rooted root, ← chars_normal, normal]
  have plain : ∀ step ∈ steps p.chars, '/' ∉ step := fun step h => (steps_isSteps p.chars step h).1.1
  rw [components, spelled, componentsOf_absoluteText plain, ← spelled]

/-- Names that are no steps of other names are folded as they are. -/
theorem foldl_foldPiece_names {absolute : Bool} (stack : List (List Char))
    (h : ∀ name ∈ names, IsName name) :
    (names.map String.toList).foldl (foldPiece absolute) stack =
      (names.map String.toList).reverse ++ stack := by
  induction names generalizing stack with
  | nil => rfl
  | cons name names ih =>
      obtain ⟨⟨nonempty, -, notHere, notUp⟩, hnames⟩ := List.forall_mem_cons.1 h
      have pushed : foldPiece absolute stack name.toList = name.toList :: stack := by
        refine foldPiece_name ?_ ?_ ?_
        · exact fun empty => nonempty (String.toList_eq_nil_iff.1 empty)
        · exact fun here => notHere (String.toList_injective here)
        · exact fun up => notUp (String.toList_injective up)
      rw [List.map_cons, List.foldl_cons, pushed, ih _ hnames]
      simp

theorem pieces_of_names (h : ∀ name ∈ names, IsName name) (plain : ∀ name ∈ names, '\\' ∉ name.toList) :
    (names.map Component.name).flatMap Component.pieces = names.map String.toList := by
  induction names with
  | nil => rfl
  | cons name names ih =>
      obtain ⟨hname, hnames⟩ := List.forall_mem_cons.1 h
      obtain ⟨hplain, hplains⟩ := List.forall_mem_cons.1 plain
      have alone : (Component.name name).pieces = [name.toList] := by
        rw [Component.pieces, Component.label, Path.pieces, unify_eq_self hplain,
          List.splitOn_eq_singleton hname.2.1]
      rw [List.map_cons, List.flatMap_cons, alone, ih hnames hplains]
      rfl

theorem rooted_descend (nonempty : p.chars ≠ []) (h : ∀ name ∈ names, IsName name) :
    rooted (p.descend names).chars = rooted p.chars := by
  have below : componentsOf (p.descend names).chars = componentsOf p.chars ++ names.map .name :=
    components_descend nonempty h
  obtain ⟨c, cs, hp⟩ := List.exists_cons_of_ne_nil nonempty
  obtain ⟨first, rest, hfirst, -⟩ := componentsOf_cons c cs
  rw [rooted_eq_components, rooted_eq_components, below, hp, hfirst]
  rfl

/-- Names without backslashes are steps behind those of their directory. -/
theorem steps_descend (nonempty : p.chars ≠ []) (h : ∀ name ∈ names, IsName name)
    (plain : ∀ name ∈ names, '\\' ∉ name.toList) :
    steps (p.descend names).chars = steps p.chars ++ names.map String.toList := by
  have below : componentsOf (p.descend names).chars = componentsOf p.chars ++ names.map .name :=
    components_descend nonempty h
  rw [steps_eq_components, steps_eq_components p.chars, rooted_descend nonempty h, below,
    List.flatMap_append, pieces_of_names h plain, foldPieces, foldPieces, List.foldl_append,
    foldl_foldPiece_names _ h]
  simp

theorem mem_chars_join {c : Char} (relative : q.isAbsolute = false) (h : c ∈ p.chars ∨ c ∈ q.chars) :
    c ∈ (p.join q).chars := by
  rw [join, relative, if_neg (by decide)]
  split
  · simpa [chars] using h
  · have : c ∈ p.chars ∨ c = '/' ∨ c ∈ q.chars := by tauto
    simpa [chars] using this

/-- The characters of a directory and of names stay where these lead to. -/
theorem mem_chars_descend {c : Char} (h : ∀ name ∈ names, IsName name)
    (hc : c ∈ p.chars ∨ ∃ name ∈ names, c ∈ name.toList) : c ∈ (p.descend names).chars := by
  induction names generalizing p with
  | nil => simpa [descend] using hc
  | cons name names ih =>
      obtain ⟨hname, hnames⟩ := List.forall_mem_cons.1 h
      rw [descend_cons]
      refine ih hnames ?_
      rcases hc with hc | ⟨n, hn, hc⟩
      · exact .inl (mem_chars_join hname.relative (.inl hc))
      · rcases List.mem_cons.1 hn with rfl | hn
        · exact .inl (mem_chars_join hname.relative (.inr hc))
        · exact .inr ⟨n, hn, hc⟩

/-- Below an absolute directory in normal form, no place is lost to normal forms. -/
theorem components_normal_descend (absolute : p.isAbsolute = true) (normal : p.normal = p)
    (h : ∀ name ∈ names, IsName name) (plain : ∀ name ∈ names, '\\' ∉ name.toList) :
    (p.descend names).normal.components = (p.descend names).components := by
  have nonempty := chars_ne_nil_of_isAbsolute absolute
  have root : rooted (p.descend names).chars = true := by
    rw [rooted_descend nonempty h]
    exact isAbsolute_normal.1 (normal.symm ▸ absolute)
  have noSlash : ∀ step ∈ steps (p.descend names).chars, '/' ∉ step :=
    fun step hstep => (steps_isSteps _ step hstep).1.1
  have named : (names.map String.toList).filterMap Component.ofPiece = names.map .name := by
    rw [List.filterMap_map, ← List.filterMap_eq_map]
    exact List.filterMap_congr fun name hname => (h name hname).ofPiece
  rw [components, chars_normal, normalChars_of_rooted root, componentsOf_absoluteText noSlash,
    steps_descend nonempty h plain, List.filterMap_append, named, components_descend nonempty h,
    components_of_normal absolute normal, List.cons_append]

end NormalForms

/-! ## Spellings of one normal form -/

section Spellings

variable {p q r : Path} {names : List String}

/-- What a text folds to decides its normal form, and the other way round. -/
theorem normal_eq_iff : p.normal = q.normal ↔
    rooted p.chars = rooted q.chars ∧ steps p.chars = steps q.chars := by
  constructor
  · intro same
    rw [← rooted_normal, ← steps_normal, same, rooted_normal, steps_normal]
    exact ⟨rfl, rfl⟩
  · rintro ⟨root, folded⟩
    exact congrArg (fun cs => Path.mk (String.ofList cs)) (normalChars_congr root folded)

theorem normal_normal (p : Path) : p.normal.normal = p.normal :=
  normal_eq_iff.2 ⟨rooted_normal p, steps_normal p⟩

/-- What is joined to paths of one normal form has one normal form. -/
theorem normal_join_of_normal (hp : p.chars ≠ []) (hq : q.chars ≠ []) (same : p.normal = q.normal) :
    (p.join r).normal = (q.join r).normal := by
  cases absolute : r.isAbsolute with
  | true => rw [join, join, if_pos absolute, if_pos absolute]
  | false =>
      obtain ⟨rootP, foldP⟩ := join_folds hp absolute
      obtain ⟨rootQ, foldQ⟩ := join_folds hq absolute
      obtain ⟨root, folded⟩ := normal_eq_iff.1 same
      exact normal_eq_iff.2 ⟨by rw [rootP, rootQ, root], by rw [foldP, foldQ, root, folded]⟩

/-- Names without backslashes lead from spellings of one normal form to such spellings. -/
theorem normal_descend_of_normal (hp : p.chars ≠ []) (hq : q.chars ≠ []) (same : p.normal = q.normal)
    (h : ∀ name ∈ names, IsName name) (plain : ∀ name ∈ names, '\\' ∉ name.toList) :
    (p.descend names).normal = (q.descend names).normal := by
  obtain ⟨root, folded⟩ := normal_eq_iff.1 same
  refine normal_eq_iff.2 ⟨?_, ?_⟩
  · rw [rooted_descend hp h, rooted_descend hq h, root]
  · rw [steps_descend hp h plain, steps_descend hq h plain, folded]

end Spellings

/-! ## Direct spellings -/

section Direct

variable {p q : Path} {names : List String}


/-- The components that the normal form of a text is spelled from. -/
def canonical (p : Path) : List Component :=
  (if rooted p.chars then [.root] else []) ++ (steps p.chars).filterMap Component.ofPiece

/-- A spelling that goes straight to its place: its components are those of its normal
    form, and it is not just the place from which it is seen. -/
def IsDirect (p : Path) : Prop := p.normal.components = p.components ∧ p.components ≠ [.here]

instance (p : Path) : Decidable p.IsDirect := inferInstanceAs (Decidable (_ ∧ _))

theorem componentsOf_intercalate {names : List (List Char)} (plain : ∀ name ∈ names, '/' ∉ name)
    (counted : ∀ name ∈ names, name ≠ [] ∧ name ≠ ['.']) (nonempty : names ≠ []) :
    componentsOf (['/'].intercalate names) = names.filterMap Component.ofPiece := by
  rw [componentsOf_eq, List.splitOn_intercalate _ plain nonempty]
  obtain ⟨name, rest, rfl⟩ := List.exists_cons_of_ne_nil nonempty
  have first := counted name List.mem_cons_self
  have noLead : leadOf (name :: rest) = [] := by
    rw [leadOf.eq_def]
    split <;> simp_all
  rw [noLead, List.nil_append]

theorem here_notMem_canonical (p : Path) : .here ∉ p.canonical := by
  have notHere : ∀ piece, Component.ofPiece piece ≠ some .here := by
    intro piece
    rw [Component.ofPiece.eq_def]
    split <;> simp
  rw [canonical, List.mem_append, List.mem_filterMap]
  rintro (root | ⟨piece, -, here⟩)
  · split at root <;> simp at root
  · exact notHere piece here

/-- Nothing but the place from which it is seen has no component of its own. -/
theorem components_normal (p : Path) :
    p.normal.components = if p.canonical = [] then [.here] else p.canonical := by
  have counted := forall_mem_steps p.chars
  have noSlash : ∀ step ∈ steps p.chars, '/' ∉ step := fun step h => (counted step h).1.1
  rw [components, chars_normal, canonical]
  cases root : rooted p.chars with
  | true =>
      rw [normalChars_of_rooted root, componentsOf_absoluteText noSlash]
      rfl
  | false =>
      have blank := intercalate_eq_nil_iff fun step hstep => (counted step hstep).2.1
      rw [normalChars_of_not_rooted root]
      by_cases none : steps p.chars = []
      · rw [if_pos (blank.2 none), none]
        rfl
      · have some : (steps p.chars).filterMap Component.ofPiece ≠ [] := by
          obtain ⟨step, rest, hsteps⟩ := List.exists_cons_of_ne_nil none
          obtain ⟨c, hc, -⟩ := ofPiece_eq_some (counted step (by simp [hsteps])).2.1
            (counted step (by simp [hsteps])).2.2
          rw [hsteps, List.filterMap_cons_some hc]
          exact List.cons_ne_nil _ _
        rw [if_neg fun h => none (blank.1 h),
          componentsOf_intercalate noSlash (fun step h => (counted step h).2) none]
        simp [some]

theorem isDirect_iff (nonempty : p.chars ≠ []) : p.IsDirect ↔ p.canonical = p.components := by
  have some : p.components ≠ [] := fun none => nonempty (componentsOf_eq_nil_iff.1 none)
  rw [IsDirect, components_normal]
  constructor
  · rintro ⟨same, notHere⟩
    split at same
    · exact absurd same.symm notHere
    · exact same
  · intro same
    refine ⟨by rw [same, if_neg some], fun here => here_notMem_canonical p ?_⟩
    rw [same, here]
    exact List.mem_singleton.2 rfl

section Descent

variable (nonempty : p.chars ≠ []) (h : ∀ name ∈ names, IsName name)
  (plain : ∀ name ∈ names, '\\' ∉ name.toList)
include nonempty h plain

theorem canonical_descend : (p.descend names).canonical = p.canonical ++ names.map .name := by
  have named : (names.map String.toList).filterMap Component.ofPiece = names.map .name := by
    rw [List.filterMap_map, ← List.filterMap_eq_map]
    exact List.filterMap_congr fun name hname => (h name hname).ofPiece
  rw [canonical, canonical, rooted_descend nonempty h, steps_descend nonempty h plain,
    List.filterMap_append, named, List.append_assoc]

/-- Going down by names is as direct as the start. -/
theorem isDirect_descend : (p.descend names).IsDirect ↔ p.IsDirect := by
  rw [isDirect_iff (descend_chars_ne_nil nonempty), isDirect_iff nonempty,
    canonical_descend nonempty h plain, components_descend nonempty h, List.append_left_inj]

/-- Only below a direct start a normal form has the components that names lead to. -/
theorem isDirect_of_components_eq (normal : q.normal = q) (some : names ≠ [])
    (same : q.components = (p.descend names).components) : p.IsDirect := by
  rw [← isDirect_descend nonempty h plain, IsDirect, ← normal_congr same, normal]
  refine ⟨same, fun here => ?_⟩
  have short := congrArg List.length (here.symm.trans (components_descend nonempty h))
  have first : p.components ≠ [] := fun none => nonempty (componentsOf_eq_nil_iff.1 none)
  have := List.length_pos_of_ne_nil first
  have := List.length_pos_of_ne_nil some
  simp at short
  omega

end Descent

end Direct

/-! ## Paths that lead down -/

/-- A name without separators of either kind. -/
def Component.Ordinary : Component → Prop
  | .name text => '\\' ∉ text.toList
  | _ => False

instance : DecidablePred Component.Ordinary
  | .name text => inferInstanceAs (Decidable ('\\' ∉ text.toList))
  | .root => inferInstanceAs (Decidable False)
  | .here => inferInstanceAs (Decidable False)
  | .up => inferInstanceAs (Decidable False)

/-- The path leads from wherever it is seen to something below, by ordinary names. -/
def LeadsDown (x : Path) : Prop := x.components ≠ [] ∧ ∀ c ∈ x.components, c.Ordinary

instance (x : Path) : Decidable x.LeadsDown := inferInstanceAs (Decidable (_ ∧ _))

section LeadsDown

variable {p x : Path} {name : String} {names : List String}

theorem name_notMem_leadOf {l : List (List Char)} : .name name ∉ leadOf l := by
  rw [leadOf.eq_def]
  split <;> simp

/-- What a path names can be held by a directory. -/
theorem isName_of_mem_components (h : .name name ∈ x.components) : IsName name := by
  rw [components, componentsOf_eq, List.mem_append, or_iff_right name_notMem_leadOf,
    List.mem_filterMap] at h
  obtain ⟨piece, hpiece, named⟩ := h
  have noSlash := (notMem_of_mem_splitOn hpiece).1
  rw [Component.ofPiece.eq_def] at named
  split at named
  · cases named
  · cases named
  · cases named
  · next nonempty notHere notUp =>
      cases named
      refine ⟨?_, by simpa using noSlash, ?_, ?_⟩ <;> rintro spelled
      · exact nonempty (String.ofList_eq_empty_iff.1 spelled)
      · exact notHere (by simpa using congrArg String.toList spelled)
      · exact notUp (by simpa using congrArg String.toList spelled)

theorem LeadsDown.exists_names (h : x.LeadsDown) :
    ∃ names : List String, names ≠ [] ∧ x.components = names.map .name := by
  have named : ∀ cs : List Component, (∀ c ∈ cs, c.Ordinary) →
      ∃ names : List String, cs = names.map .name := by
    intro cs ordinary
    induction cs with
    | nil => exact ⟨[], rfl⟩
    | cons c cs ih =>
        obtain ⟨hc, hcs⟩ := List.forall_mem_cons.1 ordinary
        obtain ⟨names, rfl⟩ := ih hcs
        match c, hc with
        | .name name, _ => exact ⟨name :: names, rfl⟩
  obtain ⟨names, hnames⟩ := named _ h.2
  refine ⟨names, ?_, hnames⟩
  rintro rfl
  exact h.1 hnames

theorem LeadsDown.ordinary (h : x.LeadsDown) (named : x.components = names.map .name) :
    ∀ name ∈ names, IsName name ∧ '\\' ∉ name.toList := by
  intro name hname
  have within : .name name ∈ x.components := named ▸ List.mem_map_of_mem hname
  exact ⟨isName_of_mem_components within, h.2 _ within⟩

theorem added_of_names (named : x.components = names.map .name) : x.added = names.map .name := by
  have noLead : leadOf (x.chars.splitOn '/') = [] := by
    refine List.eq_nil_iff_forall_not_mem.2 fun c hc => ?_
    have within : c ∈ x.components := by
      rw [components, componentsOf_eq]
      exact List.mem_append_left _ hc
    obtain ⟨name, -, rfl⟩ := List.mem_map.1 (named ▸ within)
    exact name_notMem_leadOf hc
  rw [components, componentsOf_eq, noLead] at named
  exact named

theorem LeadsDown.not_rooted (h : x.LeadsDown) : rooted x.chars = false := by
  obtain ⟨names, some, named⟩ := h.exists_names
  obtain ⟨name, rest, rfl⟩ := List.exists_cons_of_ne_nil some
  obtain ⟨isName, plain⟩ := h.ordinary named name List.mem_cons_self
  rw [rooted_eq_components, show componentsOf x.chars = (name :: rest).map .name from named,
    List.map_cons, List.head?_cons, Option.any_some, Component.label, rooted, unify_eq_self plain,
    beq_eq_false_iff_ne]
  exact fun slash => isName.2.1 (List.mem_of_head? slash)

theorem isAbsolute_of_rooted (h : rooted x.chars = false) : x.isAbsolute = false := by
  rw [isAbsolute, beq_eq_false_iff_ne]
  intro slash
  obtain ⟨cs, hcs⟩ := List.head?_eq_some_iff.1 slash
  rw [hcs] at h
  cases h

/-- Names are steps behind those of any directory, also of the one that is not spelled at all. -/
theorem LeadsDown.folds_join (down : x.LeadsDown) (named : x.components = names.map .name) :
    rooted (p.join x).chars = rooted p.chars ∧
      steps (p.join x).chars = steps p.chars ++ names.map String.toList := by
  have h : ∀ name ∈ names, IsName name := fun name hname => (down.ordinary named name hname).1
  have plain : ∀ name ∈ names, '\\' ∉ name.toList := fun name hname =>
    (down.ordinary named name hname).2
  have relative := isAbsolute_of_rooted down.not_rooted
  by_cases empty : p.chars = []
  · obtain rfl := chars_eq_nil_iff.1 empty
    have unmoved : steps (Path.mk "").chars = [] := rfl
    have alone : (Path.mk "").join x = x := by
      rw [join_eq_of_relative relative]
      simp [chars]
    rw [alone, steps_eq_components, show componentsOf x.chars = names.map .name from named,
      pieces_of_names h plain, foldPieces, foldl_foldPiece_names _ h, unmoved]
    exact ⟨down.not_rooted, by simp⟩
  · have same : componentsOf (p.join x).chars = componentsOf (p.descend names).chars := by
      refine (components_join empty relative).trans ?_
      rw [added_of_names named]
      exact (components_descend empty h).symm
    rw [rooted_congr same, steps_congr same, rooted_descend empty h, steps_descend empty h plain]
    exact ⟨rfl, rfl⟩

/-- Steps down are spelled by a path that leads down. -/
theorem exists_leadsDown {dirs : List (List Char)} (down : ∀ step ∈ dirs, IsStep step)
    (some : dirs ≠ []) :
    ∃ x : Path, x.LeadsDown ∧ x.components = (dirs.map String.ofList).map .name := by
  have named : (Path.mk (String.ofList (['/'].intercalate dirs))).components =
      (dirs.map String.ofList).map .name := by
    rw [components, chars, String.toList_ofList, componentsOf_intercalate
      (fun step hstep => (down step hstep).1.1)
      (fun step hstep => ⟨(down step hstep).2.1, (down step hstep).2.2.1⟩) some, List.map_map,
      ← List.filterMap_eq_map]
    refine List.filterMap_congr fun step hstep => ?_
    obtain ⟨-, nonempty, notHere, notUp⟩ := down step hstep
    rw [Component.ofPiece.eq_def]
    split <;> simp_all
  refine ⟨_, ⟨by simp [named, some], ?_⟩, named⟩
  rw [named]
  simp only [List.mem_map, exists_exists_and_eq_and]
  rintro _ ⟨step, hstep, rfl⟩
  simpa [Component.Ordinary] using (down step hstep).1.2

end LeadsDown

end CompileTree.Path
