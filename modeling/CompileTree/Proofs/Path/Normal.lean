import CompileTree.Path.Normal

/-! # The steps of a normal form

A normal form is spelled from the steps that remain of a text once its pieces are
folded. Folding leaves a settled stack, folding a settled stack again changes
nothing, and a text continued behind a separator is folded from where the
beginning ended. So normal forms are the texts of settled steps, and joining texts
comes to joining their normal forms (`normalText_normalText_append`).
-/

namespace CompileTree.Path

/-- A text with separators for its backslashes. -/
def unify (cs : List Char) : List Char := cs.map fun c => if c = '\\' then '/' else c

/-- Whether the normal form of a text is absolute. -/
def rooted (cs : List Char) : Bool := (unify cs).head? == some '/'

/-- The pieces of a text. -/
def pieces (cs : List Char) : List (List Char) := (unify cs).splitOn '/'

/-- The steps that remain of a text. -/
def steps (cs : List Char) : List (List Char) := foldPieces (rooted cs) (pieces cs)

/-- Steps below the root. -/
def absoluteText (names : List (List Char)) : List Char := '/' :: ['/'].intercalate names

theorem normalChars_of_rooted {cs : List Char} (h : rooted cs = true) :
    normalChars cs = absoluteText (steps cs) := by
  rw [rooted, unify] at h
  simp only [normalChars, h, if_true, absoluteText, steps, rooted, unify, pieces]

theorem normalChars_of_not_rooted {cs : List Char} (h : rooted cs = false) :
    normalChars cs =
      if ['/'].intercalate (steps cs) = [] then ['.'] else ['/'].intercalate (steps cs) := by
  rw [rooted, unify] at h
  simp only [normalChars, h, Bool.false_eq_true, if_false, steps, rooted, unify, pieces]

/-! ## Pieces -/

theorem unify_append (a b : List Char) : unify (a ++ b) = unify a ++ unify b := List.map_append

theorem unify_cons_slash (cs : List Char) : unify ('/' :: cs) = '/' :: unify cs := rfl

theorem backslash_notMem_unify (cs : List Char) : '\\' ∉ unify cs := by
  rw [unify, List.mem_map]
  rintro ⟨c, -, hc⟩
  split at hc
  · cases hc
  · contradiction

theorem unify_eq_self {cs : List Char} (h : '\\' ∉ cs) : unify cs = cs := by
  rw [unify]
  refine (List.map_congr_left fun c hc => ?_).trans (List.map_id' cs)
  rw [if_neg]
  rintro rfl
  exact h hc

theorem notMem_of_mem_splitOn {separator : Char} {cs piece : List Char}
    (h : piece ∈ cs.splitOn separator) :
    separator ∉ piece ∧ ∀ c ∈ piece, c ∈ cs := by
  induction cs generalizing piece with
  | nil => simp_all
  | cons c cs ih =>
      rw [List.splitOn_cons_eq_if_modifyHead] at h
      split at h
      · rcases List.mem_cons.1 h with rfl | h
        · simp
        · exact ⟨(ih h).1, fun d hd => List.mem_cons_of_mem _ ((ih h).2 d hd)⟩
      · next other =>
          cases first : cs.splitOn separator with
          | nil => exact absurd first (List.splitOn_ne_nil _ _)
          | cons p ps =>
              rw [first] at h ih
              rw [List.modifyHead_cons] at h
              rcases List.mem_cons.1 h with rfl | h
              · have := ih List.mem_cons_self
                grind
              · have := ih (List.mem_cons_of_mem _ h)
                exact ⟨this.1, fun d hd => List.mem_cons_of_mem _ (this.2 d hd)⟩

/-- A piece without separators of either kind. -/
def Plain (piece : List Char) : Prop := '/' ∉ piece ∧ '\\' ∉ piece

theorem plain_of_mem_pieces {cs piece : List Char} (h : piece ∈ pieces cs) : Plain piece := by
  obtain ⟨noSlash, within⟩ := notMem_of_mem_splitOn h
  exact ⟨noSlash, fun hb => backslash_notMem_unify cs (within _ hb)⟩

theorem pieces_append_slash (a b : List Char) : pieces (a ++ '/' :: b) = pieces a ++ pieces b := by
  rw [pieces, unify_append, unify_cons_slash, List.splitOn_append_cons_self]
  rfl

theorem rooted_append {a b : List Char} (nonempty : a ≠ []) : rooted (a ++ b) = rooted a := by
  cases a with
  | nil => exact absurd rfl nonempty
  | cons c a => rfl

/-! ## Folding -/

/-- A stack of steps, the last one first, that no folding shortens: a `..` has
    only others of its kind before it, and none stands below the root. -/
def Settled (absolute : Bool) : List (List Char) → Prop
  | [] => True
  | top :: rest => (Plain top ∧ top ≠ [] ∧ top ≠ ['.'] ∧
      (top = ['.', '.'] → absolute = false ∧ ∀ step ∈ rest, step = ['.', '.'])) ∧ Settled absolute rest

section Fold

variable {absolute : Bool} {stack : List (List Char)} {piece : List Char}

theorem foldPiece_name (nonempty : piece ≠ []) (notHere : piece ≠ ['.']) (notUp : piece ≠ ['.', '.']) :
    foldPiece absolute stack piece = piece :: stack := by
  rw [foldPiece.eq_def]
  split <;> simp_all

theorem Settled.foldPiece (h : Settled absolute stack) (plain : Plain piece) :
    Settled absolute (foldPiece absolute stack piece) := by
  rw [Path.foldPiece.eq_def]
  split
  · exact h
  · exact h
  · cases stack with
    | nil =>
        cases absolute with
        | true => trivial
        | false => exact ⟨⟨plain, by simp, by simp, by simp⟩, trivial⟩
    | cons top rest =>
        simp only
        split
        · next up =>
            split
            · exact h
            · next relative =>
                have others := (h.1.2.2.2 up).2
                refine ⟨⟨plain, by simp, by simp, fun _ => ⟨by simpa using relative, ?_⟩⟩, h⟩
                exact List.forall_mem_cons.2 ⟨up, others⟩
        · exact h.2
  · next nonempty notHere notUp =>
      exact ⟨⟨plain, nonempty, notHere, fun up => absurd up notUp⟩, h⟩

theorem Settled.foldl (h : Settled absolute stack) {ps : List (List Char)} (plain : ∀ p ∈ ps, Plain p) :
    Settled absolute (ps.foldl (Path.foldPiece absolute) stack) := by
  induction ps generalizing stack with
  | nil => exact h
  | cons p ps ih =>
      obtain ⟨hp, hps⟩ := List.forall_mem_cons.1 plain
      exact ih (h.foldPiece hp) hps

theorem foldPiece_settled (h : Settled absolute (piece :: stack)) :
    foldPiece absolute stack piece = piece :: stack := by
  obtain ⟨⟨-, nonempty, notHere, up⟩, -⟩ := h
  by_cases isUp : piece = ['.', '.']
  · obtain ⟨rfl, others⟩ := up isUp
    subst isUp
    cases stack with
    | nil => rfl
    | cons top rest =>
        obtain rfl : top = ['.', '.'] := others top List.mem_cons_self
        rfl
  · exact foldPiece_name nonempty notHere isUp

/-- Folding settled steps again gives them back. -/
theorem Settled.foldl_reverse (h : Settled absolute stack) :
    stack.reverse.foldl (Path.foldPiece absolute) [] = stack := by
  induction stack with
  | nil => rfl
  | cons top rest ih =>
      rw [List.reverse_cons, List.foldl_append, ih h.2]
      exact foldPiece_settled h

end Fold

theorem settled_steps (cs : List Char) : Settled (rooted cs) (steps cs).reverse := by
  rw [steps, foldPieces, List.reverse_reverse]
  have start : Settled (rooted cs) [] := trivial
  exact start.foldl fun _ hp => plain_of_mem_pieces hp

/-- A text continued behind a separator is folded from where its beginning ended. -/
theorem steps_append_slash {a b : List Char} (nonempty : a ≠ []) :
    steps (a ++ '/' :: b) =
      ((pieces b).foldl (foldPiece (rooted a)) (steps a).reverse).reverse := by
  rw [steps, rooted_append nonempty, pieces_append_slash, foldPieces, List.foldl_append, steps,
    foldPieces, List.reverse_reverse]

/-! ## Absolute texts -/

theorem Settled.forall_mem {absolute : Bool} {stack : List (List Char)} (h : Settled absolute stack) :
    ∀ step ∈ stack, Plain step ∧ step ≠ [] ∧ step ≠ ['.'] := by
  induction stack with
  | nil => simp
  | cons top rest ih => exact List.forall_mem_cons.2 ⟨⟨h.1.1, h.1.2.1, h.1.2.2.1⟩, ih h.2⟩

theorem forall_mem_steps (cs : List Char) : ∀ step ∈ steps cs, Plain step ∧ step ≠ [] ∧ step ≠ ['.'] :=
  fun step hstep => (settled_steps cs).forall_mem step (List.mem_reverse.2 hstep)

theorem intercalate_eq_nil_iff {names : List (List Char)} (nonempty : ∀ name ∈ names, name ≠ []) :
    ['/'].intercalate names = [] ↔ names = [] := by
  match names with
  | [] => simp
  | [name] => simpa using nonempty
  | name :: n :: ns => simp [List.intercalate_cons_cons]

theorem mem_intercalate {c : Char} {names : List (List Char)} (h : c ∈ ['/'].intercalate names) :
    c = '/' ∨ ∃ name ∈ names, c ∈ name := by
  induction names with
  | nil => simp at h
  | cons name names ih =>
      by_cases last : names = []
      · subst last
        rw [List.intercalate_singleton] at h
        exact .inr ⟨name, List.mem_cons_self, h⟩
      · rw [List.intercalate_cons_of_ne_nil last] at h
        grind

theorem head?_intercalate {names : List (List Char)} (plain : ∀ name ∈ names, Plain name ∧ name ≠ []) :
    (['/'].intercalate names).head? ≠ some '/' := by
  have head : ∀ name : List Char, Plain name → name ≠ [] → ∀ rest, (name ++ rest).head? ≠ some '/' := by
    intro name hplain hne rest
    cases name with
    | nil => exact absurd rfl hne
    | cons c name =>
        intro h
        obtain rfl : c = '/' := by simpa using h
        exact hplain.1 List.mem_cons_self
  match names with
  | [] => simp
  | [name] =>
      obtain ⟨hplain, hne⟩ := plain name (by simp)
      simpa using head name hplain hne []
  | name :: n :: ns =>
      obtain ⟨hplain, hne⟩ := plain name (by simp)
      rw [List.intercalate_cons_cons, List.append_assoc]
      exact head name hplain hne _

theorem chars_normal (p : Path) : p.normal.chars = normalChars p.chars := by
  simp [normal, normalText, chars]

/-- A normal form is absolute when its text is rooted. -/
theorem isAbsolute_normal {p : Path} : p.normal.isAbsolute = true ↔ rooted p.chars = true := by
  rw [isAbsolute, chars_normal, beq_iff_eq]
  cases h : rooted p.chars with
  | true => simp [normalChars_of_rooted h, absoluteText]
  | false =>
      rw [normalChars_of_not_rooted h]
      have noSlash := head?_intercalate fun step hstep =>
        ⟨(forall_mem_steps p.chars step hstep).1, (forall_mem_steps p.chars step hstep).2.1⟩
      split
      · simp
      · simpa using noSlash

section Absolute

variable {names : List (List Char)}

@[simp] theorem rooted_absoluteText : rooted (absoluteText names) = true := rfl

theorem pieces_absoluteText (plain : ∀ name ∈ names, Plain name) (nonempty : names ≠ []) :
    pieces (absoluteText names) = [] :: names := by
  have noBackslash : '\\' ∉ ['/'].intercalate names := by
    intro h
    rcases mem_intercalate h with h | ⟨name, hname, h⟩
    · contradiction
    · exact (plain name hname).2 h
  rw [pieces, absoluteText, unify_cons_slash, unify_eq_self noBackslash,
    List.splitOn_cons_eq_if_modifyHead, if_pos (by decide), List.splitOn_intercalate _ (fun name hname => (plain name hname).1) nonempty]

/-- Steps that are settled below the root are those of the text they spell. -/
theorem steps_absoluteText (h : Settled true names.reverse) : steps (absoluteText names) = names := by
  by_cases nonempty : names = []
  · subst nonempty
    rfl
  · have plain : ∀ name ∈ names, Plain name :=
      fun name hname => (h.forall_mem name (List.mem_reverse.2 hname)).1
    have refold := h.foldl_reverse
    rw [List.reverse_reverse] at refold
    rw [steps, rooted_absoluteText, pieces_absoluteText plain nonempty, foldPieces, List.foldl_cons]
    exact (congrArg List.reverse refold).trans (List.reverse_reverse names)

end Absolute

theorem steps_normalChars {cs : List Char} (h : rooted cs = true) :
    steps (normalChars cs) = steps cs := by
  rw [normalChars_of_rooted h]
  exact steps_absoluteText (h ▸ settled_steps cs)

theorem normalChars_normalChars {cs : List Char} (h : rooted cs = true) :
    normalChars (normalChars cs) = normalChars cs := by
  have hr : rooted (normalChars cs) = true := by rw [normalChars_of_rooted h, rooted_absoluteText]
  rw [normalChars_of_rooted hr, steps_normalChars h, normalChars_of_rooted h]

/-! ## Relative texts -/

section Relative

variable {cs : List Char} {names : List (List Char)}

theorem backslash_notMem_intercalate (plain : ∀ name ∈ names, Plain name) :
    '\\' ∉ ['/'].intercalate names := by
  intro backslash
  rcases mem_intercalate backslash with slash | ⟨name, hname, h⟩
  · contradiction
  · exact (plain name hname).2 h

theorem rooted_intercalate (plain : ∀ name ∈ names, Plain name ∧ name ≠ []) :
    rooted (['/'].intercalate names) = false := by
  rw [rooted, unify_eq_self (backslash_notMem_intercalate fun name h => (plain name h).1),
    beq_eq_false_iff_ne]
  exact head?_intercalate plain

/-- Steps that are settled are those of the relative text they spell. -/
theorem steps_intercalate (h : Settled false names.reverse) (nonempty : names ≠ []) :
    steps (['/'].intercalate names) = names := by
  have plain : ∀ name ∈ names, Plain name ∧ name ≠ [] := fun name hname =>
    have counted := h.forall_mem name (List.mem_reverse.2 hname)
    ⟨counted.1, counted.2.1⟩
  have refold := h.foldl_reverse
  rw [List.reverse_reverse] at refold
  rw [steps, rooted_intercalate plain, pieces,
    unify_eq_self (backslash_notMem_intercalate fun name h => (plain name h).1),
    List.splitOn_intercalate _ (fun name h => (plain name h).1.1) nonempty, foldPieces, refold,
    List.reverse_reverse]

/-- A normal form has the root and the steps of its text. -/
theorem folds_normalChars (cs : List Char) :
    rooted (normalChars cs) = rooted cs ∧ steps (normalChars cs) = steps cs := by
  cases h : rooted cs with
  | true =>
      refine ⟨?_, steps_normalChars h⟩
      rw [normalChars_of_rooted h, rooted_absoluteText]
  | false =>
      have settled := settled_steps cs
      have plain : ∀ step ∈ steps cs, Plain step ∧ step ≠ [] := fun step hstep =>
        ⟨(forall_mem_steps cs step hstep).1, (forall_mem_steps cs step hstep).2.1⟩
      have blank := intercalate_eq_nil_iff fun step hstep => (plain step hstep).2
      rw [normalChars_of_not_rooted h]
      split
      · next none =>
          rw [blank.1 none]
          exact ⟨rfl, rfl⟩
      · next some =>
          exact ⟨rooted_intercalate plain, steps_intercalate (h ▸ settled) fun none => some (blank.2 none)⟩

theorem rooted_normal (p : Path) : rooted p.normal.chars = rooted p.chars := by
  rw [chars_normal, (folds_normalChars p.chars).1]

theorem steps_normal (p : Path) : steps p.normal.chars = steps p.chars := by
  rw [chars_normal, (folds_normalChars p.chars).2]

end Relative

/-! ## Texts behind a separator -/

section Behind

variable {absolute : Bool} {cs : List Char} {own stack : List (List Char)}

/-- A piece that is folded into steps first leads to where it leads behind them. -/
theorem foldl_reverse_foldPiece (h : Settled false own) (piece : List Char) :
    (foldPiece false own piece).reverse.foldl (foldPiece absolute) stack =
      foldPiece absolute (own.reverse.foldl (foldPiece absolute) stack) piece := by
  rw [foldPiece.eq_def false]
  split
  · rfl
  · rfl
  · cases own with
    | nil => rfl
    | cons top rest =>
        simp only [Bool.false_eq_true, if_false]
        rw [List.reverse_cons, List.foldl_append, List.foldl_cons, List.foldl_nil]
        split
        · next up =>
            rw [List.reverse_cons, List.reverse_cons, up]
            simp only [List.foldl_append, List.foldl_cons, List.foldl_nil]
        · next name =>
            -- A name is taken back by the step up behind it, whatever it stands on.
            obtain ⟨-, nonempty, notHere, -⟩ := h.1
            rw [foldPiece_name nonempty notHere name, foldPiece]
            simp only [if_neg name]
  · rw [List.reverse_cons, List.foldl_append, List.foldl_cons, List.foldl_nil]

/-- Pieces may be folded by themselves before they are folded behind others. -/
theorem foldl_reverse_foldl (h : Settled false own) {ps : List (List Char)}
    (plain : ∀ p ∈ ps, Plain p) :
    (ps.foldl (foldPiece false) own).reverse.foldl (foldPiece absolute) stack =
      ps.foldl (foldPiece absolute) (own.reverse.foldl (foldPiece absolute) stack) := by
  induction ps generalizing own with
  | nil => rfl
  | cons p ps ih =>
      obtain ⟨hp, hps⟩ := List.forall_mem_cons.1 plain
      rw [List.foldl_cons, List.foldl_cons, ih (h.foldPiece hp) hps, foldl_reverse_foldPiece h]

theorem foldl_pieces (relative : rooted cs = false) :
    (pieces cs).foldl (foldPiece absolute) stack = (steps cs).foldl (foldPiece absolute) stack := by
  have start : Settled false [] := trivial
  rw [steps, relative, foldPieces, foldl_reverse_foldl start fun _ hp => plain_of_mem_pieces hp]
  rfl

end Behind


/-- The normal form of a text is decided by what it folds to. -/
theorem normalChars_congr {a b : List Char} (root : rooted a = rooted b) (folded : steps a = steps b) :
    normalChars a = normalChars b := by
  cases h : rooted a with
  | true => rw [normalChars_of_rooted h, normalChars_of_rooted (root ▸ h), folded]
  | false => rw [normalChars_of_not_rooted h, normalChars_of_not_rooted (root ▸ h), folded]

theorem normalChars_ne_nil (cs : List Char) : normalChars cs ≠ [] := by
  cases h : rooted cs with
  | true =>
      rw [normalChars_of_rooted h]
      exact List.cons_ne_nil _ _
  | false =>
      rw [normalChars_of_not_rooted h]
      split
      · exact List.cons_ne_nil _ _
      · assumption

theorem backslash_notMem_normalChars (cs : List Char) : '\\' ∉ normalChars cs := by
  have plain : '\\' ∉ ['/'].intercalate (steps cs) :=
    backslash_notMem_intercalate fun step hstep => (forall_mem_steps cs step hstep).1
  cases h : rooted cs with
  | true =>
      rw [normalChars_of_rooted h]
      simpa [absoluteText] using plain
  | false =>
      rw [normalChars_of_not_rooted h]
      split
      · decide
      · exact plain

/-- A text behind a separator may be brought into normal form before it is put there. -/
theorem normalChars_append_slash {a b : List Char} (nonempty : a ≠ []) (relative : rooted b = false) :
    normalChars (a ++ '/' :: b) = normalChars (normalChars a ++ '/' :: normalChars b) := by
  obtain ⟨rootA, stepsA⟩ := folds_normalChars a
  obtain ⟨rootB, stepsB⟩ := folds_normalChars b
  refine normalChars_congr ?_ ?_
  · rw [rooted_append nonempty, rooted_append (normalChars_ne_nil a), rootA]
  · rw [steps_append_slash nonempty, steps_append_slash (normalChars_ne_nil a), rootA, stepsA,
      foldl_pieces relative, foldl_pieces (rootB.trans relative), stepsB]

/-! ## Normal texts -/

/-- A step down: a name, and nothing else that a piece can be. -/
def IsStep (step : List Char) : Prop := Plain step ∧ step ≠ [] ∧ step ≠ ['.'] ∧ step ≠ ['.', '.']

/-- Steps down behind steps up are settled; below the root there are none that lead up. -/
theorem settled_append {absolute : Bool} {ups : Nat} {names : List (List Char)}
    (below : absolute = true → ups = 0) (down : ∀ name ∈ names, IsStep name) :
    Settled absolute (names ++ List.replicate ups ['.', '.']) := by
  induction names with
  | nil =>
      induction ups with
      | zero => trivial
      | succ ups ih =>
          have relative : absolute = false := by
            cases absolute with
            | true => exact absurd (below rfl) (Nat.succ_ne_zero ups)
            | false => rfl
          refine ⟨⟨by simp [Plain], by simp, by simp, fun _ => ⟨relative, fun step hstep => ?_⟩⟩, ?_⟩
          · exact List.eq_of_mem_replicate hstep
          · exact ih fun isAbsolute => by rw [relative] at isAbsolute; cases isAbsolute
  | cons name names ih =>
      obtain ⟨⟨plain, nonempty, notHere, notUp⟩, rest⟩ := List.forall_mem_cons.1 down
      exact ⟨⟨plain, nonempty, notHere, fun up => absurd up notUp⟩, ih rest⟩

/-- Settled steps lead up at first, if at all, and then down. -/
theorem Settled.exists_append {absolute : Bool} {stack : List (List Char)} (h : Settled absolute stack) :
    ∃ ups names, stack = names ++ List.replicate ups ['.', '.'] ∧ (absolute = true → ups = 0) ∧
      ∀ name ∈ names, IsStep name := by
  induction stack with
  | nil => exact ⟨0, [], rfl, fun _ => rfl, by simp⟩
  | cons top rest ih =>
      obtain ⟨⟨plain, nonempty, notHere, up⟩, settled⟩ := h
      by_cases isUp : top = ['.', '.']
      · obtain ⟨rfl, others⟩ := up isUp
        refine ⟨rest.length + 1, [], ?_, nofun, by simp⟩
        rw [isUp, List.nil_append, List.replicate_succ, ← List.eq_replicate_iff.2 ⟨rfl, others⟩]
      · obtain ⟨ups, names, rfl, below, down⟩ := ih settled
        exact ⟨ups, top :: names, rfl, below,
          List.forall_mem_cons.2 ⟨⟨plain, nonempty, notHere, isUp⟩, down⟩⟩

/-- The steps that remain of a text. -/
theorem exists_steps_eq (cs : List Char) :
    ∃ ups names, steps cs = List.replicate ups ['.', '.'] ++ names ∧ (rooted cs = true → ups = 0) ∧
      ∀ name ∈ names, IsStep name := by
  obtain ⟨ups, names, stack, below, down⟩ := (settled_steps cs).exists_append
  refine ⟨ups, names.reverse, ?_, below, fun name hname => down name (List.mem_reverse.1 hname)⟩
  rw [← List.reverse_reverse (steps cs), stack, List.reverse_append, List.reverse_replicate]

/-- The texts that spell a place in one way: from where it is seen, or from the root, by
    steps of which only the first ones of a relative text may lead up. -/
inductive IsNormalText : String → Prop where
  | here : IsNormalText "."
  | absolute {names : List String} : (∀ name ∈ names, IsStep name.toList) →
      IsNormalText ("/" ++ "/".intercalate names)
  | relative {ups : Nat} {names : List String} : List.replicate ups ".." ++ names ≠ [] →
      (∀ name ∈ names, IsStep name.toList) →
      IsNormalText ("/".intercalate (List.replicate ups ".." ++ names))

section Texts

variable {ups : Nat} {names : List String}

theorem map_toList_steps : (List.replicate ups ".." ++ names).map String.toList =
    List.replicate ups ['.', '.'] ++ names.map String.toList := by
  rw [List.map_append, List.map_replicate]
  rfl

theorem toList_relative : ("/".intercalate (List.replicate ups ".." ++ names)).toList =
    ['/'].intercalate (List.replicate ups ['.', '.'] ++ names.map String.toList) := by
  rw [String.toList_intercalate, map_toList_steps]
  rfl

theorem toList_absolute : ("/" ++ "/".intercalate names).toList = absoluteText (names.map String.toList) := by
  rw [String.toList_append, String.toList_intercalate]
  rfl

theorem normalText_eq_of_toList {s t : String} (h : normalChars s.toList = t.toList) :
    normalText s = t := by
  rw [normalText, h, String.ofList_toList]

/-- A normal form is a normal text. -/
theorem isNormalText_normalText (s : String) : IsNormalText (normalText s) := by
  obtain ⟨ups, chars, hsteps, below, down⟩ := exists_steps_eq s.toList
  obtain ⟨names, rfl⟩ : ∃ names : List String, chars = names.map String.toList :=
    ⟨chars.map String.ofList, by simp [Function.comp_def]⟩
  have named : ∀ name ∈ names, IsStep name.toList := by simpa using down
  cases root : rooted s.toList with
  | true =>
      have text : normalText s = "/" ++ "/".intercalate names := by
        refine normalText_eq_of_toList ?_
        rw [normalChars_of_rooted root, hsteps, below root, toList_absolute]
        rfl
      exact text ▸ .absolute named
  | false =>
      have blank := intercalate_eq_nil_iff fun step hstep => (forall_mem_steps s.toList step hstep).2.1
      have spelled := normalChars_of_not_rooted root
      by_cases none : List.replicate ups ".." ++ names = []
      · rw [if_pos (blank.2 (by rw [hsteps, ← map_toList_steps, none]; rfl))] at spelled
        exact normalText_eq_of_toList (t := ".") spelled ▸ .here
      · have some : steps s.toList ≠ [] := by
          rw [hsteps, ← map_toList_steps]
          simpa using none
        rw [if_neg fun h => some (blank.1 h), hsteps, ← toList_relative] at spelled
        exact normalText_eq_of_toList spelled ▸ .relative none named

/-- A normal text is its own normal form. -/
theorem IsNormalText.normalText_eq {s : String} (h : IsNormalText s) : normalText s = s := by
  have settled : ∀ (absolute : Bool) (ups : Nat) {names : List String}, (absolute = true → ups = 0) →
      (∀ name ∈ names, IsStep name.toList) →
      Settled absolute (List.replicate ups ['.', '.'] ++ names.map String.toList).reverse := by
    intro absolute ups names below down
    rw [List.reverse_append, List.reverse_replicate]
    exact settled_append below (by simpa using down)
  cases h with
  | here => decide
  | @absolute names down =>
      have own : steps (absoluteText (names.map String.toList)) = names.map String.toList :=
        steps_absoluteText (settled true 0 (fun _ => rfl) down)
      refine normalText_eq_of_toList ?_
      rw [toList_absolute, normalChars_of_rooted rooted_absoluteText, own]
  | @relative ups names some down =>
      have settled := settled false ups nofun down
      have counted : List.replicate ups ['.', '.'] ++ names.map String.toList ≠ [] := by
        rw [← map_toList_steps]
        simpa using some
      have plain := fun step hstep => settled.forall_mem step (List.mem_reverse.2 hstep)
      have own := steps_intercalate settled counted
      have relative := rooted_intercalate fun step hstep => ⟨(plain step hstep).1, (plain step hstep).2.1⟩
      have blank := intercalate_eq_nil_iff fun step hstep => (plain step hstep).2.1
      refine normalText_eq_of_toList ?_
      rw [toList_relative, normalChars_of_not_rooted relative, own, if_neg fun h => counted (blank.1 h)]

end Texts

/-- Normal forms are the normal texts: every text has one, and that of a normal text is
    the text itself. A text behind a separator may be brought into normal form before it is
    put there. -/
theorem normalText_normalText_append (s : String) :
    normalText (normalText s) = normalText s ∧
      '\\' ∉ (normalText s).toList ∧ IsNormalText (normalText s) ∧
      (IsNormalText s → normalText s = s) ∧
      ∀ b : String, s ≠ "" → b.toList.head? ≠ some '/' → b.toList.head? ≠ some '\\' →
        normalText (s ++ "/" ++ b) = normalText (normalText s ++ "/" ++ normalText b) := by
  have normal := isNormalText_normalText s
  refine ⟨normal.normalText_eq, ?_, normal, IsNormalText.normalText_eq, ?_⟩
  · rw [normalText, String.toList_ofList]
    exact backslash_notMem_normalChars s.toList
  · intro b nonempty noSlash noBackslash
    have relative : rooted b.toList = false := by
      rw [rooted, unify, List.head?_map, beq_eq_false_iff_ne]
      cases h : b.toList.head? with
      | none => simp
      | some c => grind
    have joined := normalChars_append_slash (mt String.toList_eq_nil_iff.1 nonempty) relative
    simp [normalText, joined]

theorem normalText_normalText_append_upwards :
    "../a\\b/.." ≠ "" ∧ "c/../../../d/".toList.head? ≠ some '/' ∧
      "c/../../../d/".toList.head? ≠ some '\\' ∧
      normalText ("../a\\b/.." ++ "/" ++ "c/../../../d/") =
        normalText (normalText "../a\\b/.." ++ "/" ++ normalText "c/../../../d/") ∧
      normalText "../a\\b/.." = "../a" ∧ normalText "c/../../../d/" = "../../d" ∧
      IsNormalText "../../d" ∧ normalText "../../d" = "../../d" := by
  have down : IsStep ['d'] := by simp [IsStep, Plain]
  have normal : IsNormalText "../../d" :=
    @IsNormalText.relative 2 ["d"] (by simp) (by simpa using down)
  have joined := (normalText_normalText_append "../a\\b/..").2.2.2.2 "c/../../../d/" (by decide)
    (by decide) (by decide)
  exact ⟨by decide, by decide, by decide, joined, by decide, by decide, normal,
    (normalText_normalText_append "../../d").2.2.2.1 normal⟩

end CompileTree.Path
