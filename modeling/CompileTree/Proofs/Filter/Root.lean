import CompileTree.Proofs.Filter.Verdict
import CompileTree.Proofs.Path.Descent

/-! # A filter and its root

The root of a filter is a part of its patterns, spelled as it is. Every text covers
itself, so that without any inclusion nothing below a root is ever left out
(`includes_everything`). The globs of a text depend on the root only where its name
is read as several directories, and this is so just for two stars in a row
(`verdict_eq_iff`).
-/

namespace CompileTree.Filter

open CompileTree.Path CompileTree.Glob

/-! ## What a root includes by default -/

section Default

variable {root x : Path}

theorem covers_default_join (root : Path) (down : x.LeadsDown) :
    Covers (normalChars (normalChars root.chars ++ "/**".toList)) (root.join x).normal.chars := by
  obtain ⟨names, some, named⟩ := down.exists_names
  obtain ⟨rootedX, stepsX⟩ := down.folds_join (p := root) named
  obtain ⟨rootedN, stepsN⟩ := folds_normalChars root.chars
  have nonempty := normalChars_ne_nil root.chars
  have pattern : steps (normalChars root.chars ++ "/**".toList) =
      steps root.chars ++ ["**".toList] := by
    rw [steps_append_stars nonempty, stepsN]
  rw [chars_normal, normalChars_of_steps_append stepsX (by simpa using some),
    normalChars_of_steps_append pattern (by simp), rooted_append nonempty, rootedN, rootedX]
  -- in front of the two stars both texts are spelled by the same steps
  simpa using covers_stars_between
    ((if rooted root.chars then ['/'] else []) ++ (steps root.chars).flatMap (· ++ ['/']))
    (['/'].intercalate (names.map String.toList)) []

theorem everything_includes_iff {p : Path} : (everything root).includes p = true ↔
    Covers (normalChars (normalChars root.chars ++ "/**".toList)) p.normal.chars := by
  simp only [includes, everything, Option.any_none, Bool.not_false, Bool.and_true, chars_normal]
  rw [accepts_ofPatterns_iff (by simp)]
  simp

/-- Whatever the root and however it is spelled, the filter without rules includes all that
    ordinary names lead to from it; and of the absolute places nothing else, below an
    absolute root without wildcards. -/
theorem includes_everything (root : Path) {x : Path} (down : x.LeadsDown) :
    ofText root "" = .ok (everything root) ∧ (everything root).includes (root.join x) = true ∧
      (root.normal.isAbsolute = true → '*' ∉ root.normal.chars → '?' ∉ root.normal.chars →
        ∀ p : Path, p.normal.isAbsolute = true →
          ((everything root).includes p = true ↔ StrictlyBelow root p)) := by
  refine ⟨ofText_empty root, everything_includes_iff.2 (covers_default_join root down), ?_⟩
  intro absolute noStar noQuestion p hp
  rw [isAbsolute_normal] at absolute hp
  exact everything_includes_iff.trans (covers_everything_iff absolute hp noStar noQuestion)

theorem includes_everything_starred :
    LeadsDown ⟨"lib//[v1]/a.h"⟩ ∧
      ofText ⟨"./x/..//**\\(y)*/"⟩ "" = .ok (everything ⟨"./x/..//**\\(y)*/"⟩) ∧
      (everything ⟨"./x/..//**\\(y)*/"⟩).includes
        (Path.join ⟨"./x/..//**\\(y)*/"⟩ ⟨"lib//[v1]/a.h"⟩) = true ∧
      (Path.normal ⟨"/repo"⟩).isAbsolute = true ∧ '*' ∉ (Path.normal ⟨"/repo"⟩).chars ∧
      '?' ∉ (Path.normal ⟨"/repo"⟩).chars ∧ (Path.normal ⟨"/repository/a.h"⟩).isAbsolute = true ∧
      (everything ⟨"/repo"⟩).includes ⟨"/repository/a.h"⟩ = false := by
  have down : LeadsDown ⟨"lib//[v1]/a.h"⟩ := by decide
  obtain ⟨made, included, -⟩ := includes_everything ⟨"./x/..//**\\(y)*/"⟩ down
  obtain ⟨-, -, nothingElse⟩ := includes_everything ⟨"/repo"⟩ down
  have absolute : (Path.normal ⟨"/repo"⟩).isAbsolute = true := by decide
  have noStar : '*' ∉ (Path.normal ⟨"/repo"⟩).chars := by decide
  have noQuestion : '?' ∉ (Path.normal ⟨"/repo"⟩).chars := by decide
  have beside : (Path.normal ⟨"/repository/a.h"⟩).isAbsolute = true := by decide
  refine ⟨down, made, included, absolute, noStar, noQuestion, beside, ?_⟩
  rw [← Bool.not_eq_true, nothingElse absolute noStar noQuestion _ beside, StrictlyBelow]
  decide

end Default

/-! ## Globs seen from different roots -/

/-- What a filter text says of the path that `x` leads to from the root. -/
def verdict (root : Path) (text : String) (x : Path) : Except String Bool :=
  (ofText root text).map (·.includes (root.join x))

/-- No glob of the text goes up. -/
def NeverUp (text : String) : Prop :=
  ∀ glob ∈ globsAfter "include:" text ++ globsAfter "exclude:" text, "..".toList ∉ pieces glob

instance (text : String) : Decidable (NeverUp text) := inferInstanceAs (Decidable (∀ _ ∈ _, _))

/-- The steps that a glob adds to those of the root. -/
def globSteps (glob : List Char) : List (List Char) :=
  (pieces glob).filter fun piece => piece ≠ [] ∧ piece ≠ ['.']

section Globs

variable {root x : Path} {glob : List Char} {text : String}

theorem rooted_atRoot : rooted (Path.mk "/").chars = true := by decide

theorem steps_atRoot : steps (Path.mk "/").chars = [] := by decide

theorem globSteps_isSteps (glob : List Char) : Steps (globSteps glob) := by
  intro piece hpiece
  obtain ⟨hpiece, counted⟩ := List.mem_filter.1 hpiece
  exact ⟨plain_of_mem_pieces hpiece, (of_decide_eq_true counted).1⟩

theorem foldl_foldPiece_of_noUp {absolute : Bool} {stack ps : List (List Char)}
    (noUp : "..".toList ∉ ps) :
    ps.foldl (foldPiece absolute) stack =
      (ps.filter fun piece => piece ≠ [] ∧ piece ≠ ['.']).reverse ++ stack := by
  induction ps generalizing stack with
  | nil => rfl
  | cons piece ps ih =>
      rw [List.mem_cons, not_or] at noUp
      rw [List.foldl_cons, ih noUp.2]
      by_cases counted : piece ≠ [] ∧ piece ≠ ['.']
      · rw [foldPiece_name counted.1 counted.2 (Ne.symm noUp.1),
          List.filter_cons_of_pos (by simpa using counted)]
        simp
      · rw [List.filter_cons_of_neg (by simpa using counted)]
        obtain rfl | rfl : piece = [] ∨ piece = ['.'] := by tauto
        · rfl
        · rfl

theorem seenFrom_eq (hroot : rooted root.chars = true) (noUp : "..".toList ∉ pieces glob) :
    seenFrom root glob = absoluteText (steps root.chars ++ globSteps glob) := by
  have nonempty := nonempty_of_rooted hroot
  rw [seenFrom]
  split
  · next empty =>
      subst empty
      have none : globSteps [] = [] := by decide
      rw [none, List.append_nil, normalChars_of_rooted hroot]
  · have seen : rooted (root.chars ++ '/' :: glob) = true := by rw [rooted_append nonempty, hroot]
    rw [normalChars_of_rooted seen, steps_append_slash nonempty, foldl_foldPiece_of_noUp noUp]
    simp [globSteps]

/-- A rule applies below a root when its glob, behind the steps of the root, covers a
    beginning of what leads there. -/
theorem applies_join_iff {names : List String} (hroot : rooted root.chars = true)
    (noUp : "..".toList ∉ pieces glob) (down : x.LeadsDown) (named : x.components = names.map .name) :
    Applies root glob (root.join x) ↔
      ∃ init more, steps root.chars ++ names.map String.toList = init ++ more ∧
        Covers (absoluteText (steps root.chars ++ globSteps glob)) (absoluteText init) := by
  obtain ⟨rootedX, stepsX⟩ := down.folds_join (p := root) named
  rw [Applies, chars_normal_of_rooted (rootedX.trans hroot), seenFrom_eq hroot noUp, stepsX]
  simp only [mem_ancestry (stepsX ▸ steps_isSteps _)]
  constructor
  · rintro ⟨_, ⟨init, more, split, rfl⟩, covered⟩
    exact ⟨init, more, split, covered⟩
  · rintro ⟨init, more, split, covered⟩
    exact ⟨_, ⟨init, more, split, rfl⟩, covered⟩

/-- Below a root without two stars in a row a rule applies as below the root directory. -/
theorem applies_join_iff_atRoot (hroot : rooted root.chars = true)
    (few : ¬ HasSeveralStars root.normal.chars) (noUp : "..".toList ∉ pieces glob)
    (down : x.LeadsDown) : Applies root glob (root.join x) ↔ Applies ⟨"/"⟩ glob (Path.join ⟨"/"⟩ x) := by
  obtain ⟨names, some, named⟩ := down.exists_names
  have ordinary : Steps (names.map String.toList) := by
    have below : Steps (steps root.chars ++ names.map String.toList) :=
      (down.folds_join named).2 ▸ steps_isSteps _
    exact below.right
  rw [chars_normal_of_rooted hroot] at few
  rw [applies_join_iff hroot noUp down named, applies_join_iff rooted_atRoot noUp down named,
    steps_atRoot, List.nil_append, List.nil_append]
  exact covers_behind_iff (steps_isSteps _) (globSteps_isSteps glob) ordinary (by simpa using some) few

theorem strictlyBelow_join (hroot : rooted root.chars = true) (down : x.LeadsDown) :
    StrictlyBelow root (root.join x) := by
  obtain ⟨names, some, named⟩ := down.exists_names
  obtain ⟨rootedX, stepsX⟩ := down.folds_join (p := root) named
  have behind : names.map String.toList ≠ [] := by simpa using some
  rw [StrictlyBelow, chars_normal_of_rooted hroot, chars_normal_of_rooted (rootedX.trans hroot), stepsX]
  by_cases top : steps root.chars = []
  · exact .inl (by rw [top]; rfl)
  · refine .inr ⟨(mem_ancestry (stepsX ▸ steps_isSteps _)).2 ⟨_, _, rfl, rfl⟩, ?_⟩
    rw [absoluteText_append top behind]
    simp [absoluteText]

theorem verdict_eq_ok (hroot : rooted root.chars = true) (down : x.LeadsDown)
    (wellFormed : (ruleLines text).find? malformed = none) :
    ∃ b, verdict root text x = .ok b ∧ (b = true ↔ Counts root text (root.join x)) := by
  obtain ⟨f, hf, decides⟩ := exists_ofText_byDefault hroot wellFormed
  obtain ⟨names, some, named⟩ := down.exists_names
  obtain ⟨rootedX, -⟩ := down.folds_join (p := root) named
  have all : ByDefault root (root.join x) :=
    iff_of_true (covers_default_join root down) (strictlyBelow_join hroot down)
  exact ⟨f.includes (root.join x), by rw [verdict, hf]; rfl, decides _ (rootedX.trans hroot) all⟩

/-- Below a root without two stars in a row a text says what it says below the root
    directory. -/
theorem verdict_eq_atRoot (hroot : rooted root.chars = true) (few : ¬ HasSeveralStars root.normal.chars)
    (noUp : NeverUp text) (down : x.LeadsDown) : verdict root text x = verdict ⟨"/"⟩ text x := by
  have read := rules_eq text
  split at read
  · simp only [verdict, ofText, read]
    rfl
  · next wellFormed =>
      obtain ⟨b, hb, decides⟩ := verdict_eq_ok hroot down wellFormed
      obtain ⟨b', hb', decides'⟩ := verdict_eq_ok rooted_atRoot down wellFormed
      have applies : ∀ keyword, keyword = "include:" ∨ keyword = "exclude:" →
          ((∃ glob ∈ globsAfter keyword text, Applies root glob (root.join x)) ↔
            ∃ glob ∈ globsAfter keyword text, Applies ⟨"/"⟩ glob (Path.join ⟨"/"⟩ x)) := by
        intro keyword either
        refine exists_congr fun glob => and_congr_right fun hglob => ?_
        refine applies_join_iff_atRoot hroot few (noUp glob (List.mem_append.2 ?_)) down
        rcases either with rfl | rfl
        · exact .inl hglob
        · exact .inr hglob
      have same : b = true ↔ b' = true := by
        rw [decides, decides', Counts, Counts, applies _ (.inl rfl), applies _ (.inr rfl)]
        simp only [strictlyBelow_join hroot down, strictlyBelow_join rooted_atRoot down]
      rw [hb, hb', Bool.eq_iff_iff.2 same]

end Globs

/-! ## Roots that are read as patterns -/

section Starred

variable {root other : Path}

theorem exists_verdict_include {x : Path} {names : List String} (hroot : rooted root.chars = true)
    (down : x.LeadsDown) (named : x.components = names.map .name) :
    ∃ b, verdict root "include: g" x = .ok b ∧
      (b = true ↔ ∃ init more, steps root.chars ++ names.map String.toList = init ++ more ∧
        Covers (absoluteText (steps root.chars ++ [['g']])) (absoluteText init)) := by
  have wellFormed : (ruleLines "include: g").find? malformed = none := by decide
  have included : globsAfter "include:" "include: g" = [['g']] := by decide
  have excluded : globsAfter "exclude:" "include: g" = [] := by decide
  have glob : globSteps ['g'] = [['g']] := by decide
  have noUp : "..".toList ∉ pieces ['g'] := by decide
  have applies := applies_join_iff hroot noUp down named
  rw [glob] at applies
  obtain ⟨b, hb, decides⟩ := verdict_eq_ok hroot down wellFormed
  refine ⟨b, hb, decides.trans ?_⟩
  rw [Counts, included, excluded, ← applies]
  simp

/-- Two stars in the name of a root let a glob apply where it does not below the root directory. -/
theorem exists_verdict_ne (hroot : rooted root.chars = true)
    (several : HasSeveralStars root.normal.chars) :
    ∃ x : Path, x.LeadsDown ∧ verdict root "include: g" x = .ok true ∧
      verdict ⟨"/"⟩ "include: g" x = .ok false := by
  obtain ⟨_, dirs, hdirs, noUps, down⟩ := exists_steps_eq root.chars
  obtain rfl := noUps hroot
  rw [List.replicate_zero, List.nil_append] at hdirs
  rw [chars_normal_of_rooted hroot, hdirs] at several
  have letters : IsStep ['x'] ∧ IsStep ['g'] := by simp [IsStep, Plain]
  have ordinary : ∀ step ∈ [['x']] ++ (dirs ++ [['g']]), IsStep step := by
    simpa [or_imp, forall_and, letters] using down
  have counted : Steps ([['x']] ++ (dirs ++ [['g']])) := fun step hstep =>
    ⟨(ordinary step hstep).1, (ordinary step hstep).2.1⟩
  -- the root is spelled again below another name, so that only its stars lead to the glob
  obtain ⟨x, leads, named⟩ := exists_leadsDown ordinary (by simp)
  have spelled : (([['x']] ++ (dirs ++ [['g']])).map String.ofList).map String.toList =
      [['x']] ++ (dirs ++ [['g']]) := by simp
  obtain ⟨b, hb, starred⟩ := exists_verdict_include hroot leads named
  obtain ⟨b', hb', unstarred⟩ := exists_verdict_include rooted_atRoot leads named
  rw [spelled, hdirs] at starred
  rw [spelled, steps_atRoot, List.nil_append, List.nil_append] at unstarred
  have isTrue : b = true := starred.2
    ⟨_, [], (List.append_nil _).symm, covers_further_down (by simp) (by simp) several⟩
  have isFalse : b' = false := by
    rw [Bool.eq_false_iff, ne_eq, unstarred]
    rintro ⟨init, more, split, covered⟩
    have atGlob : init = [['g']] := by
      refine (covers_absoluteText_iff_eq ?_ (Steps.left (split ▸ counted)) ?_ ?_).1 covered
      · simp [Steps, Plain]
      · decide
      · decide
    rw [atGlob] at split
    simp at split
  exact ⟨x, leads, isTrue ▸ hb, isFalse ▸ hb'⟩

/-- What a text says below a root is what it says below any other, unless the normal form of
    the root has two stars in a row: a name with them is read as any run of directories, and some
    text tells such a root from every other one. -/
theorem verdict_eq_iff (absolute : root.normal.isAbsolute = true)
    (absolute' : other.normal.isAbsolute = true) (plain : ¬ HasSeveralStars other.normal.chars) :
    (∀ text x, NeverUp text → x.LeadsDown → verdict root text x = verdict other text x) ↔
      ¬ HasSeveralStars root.normal.chars := by
  rw [isAbsolute_normal] at absolute absolute'
  constructor
  · intro same several
    obtain ⟨x, down, starred, unstarred⟩ := exists_verdict_ne absolute several
    have noUp : NeverUp "include: g" := by decide
    rw [same _ x noUp down, verdict_eq_atRoot absolute' plain noUp down, unstarred] at starred
    cases starred
  · intro few text x noUp down
    rw [verdict_eq_atRoot absolute few noUp down, verdict_eq_atRoot absolute' plain noUp down]

end Starred

/-- Single stars and question marks in the name of a root stand for themselves below it. -/
theorem verdict_eq_iff_singleStar :
    (Path.normal ⟨"/home/*u?/[v1]"⟩).isAbsolute = true ∧ (Path.normal ⟨"/r"⟩).isAbsolute = true ∧
      ¬ HasSeveralStars (Path.normal ⟨"/r"⟩).chars ∧
      (∀ text x, NeverUp text → LeadsDown x →
        verdict ⟨"/home/*u?/[v1]"⟩ text x = verdict ⟨"/r"⟩ text x) ∧
      verdict ⟨"/home/*u?/[v1]"⟩ "include: src\nexclude: **/gen" ⟨"src/a.c"⟩ = .ok true := by
  have absolute : (Path.normal ⟨"/home/*u?/[v1]"⟩).isAbsolute = true := by decide
  have absolute' : (Path.normal ⟨"/r"⟩).isAbsolute = true := by decide
  have plain : ¬ HasSeveralStars (Path.normal ⟨"/r"⟩).chars := by decide
  have few : ¬ HasSeveralStars (Path.normal ⟨"/home/*u?/[v1]"⟩).chars := by decide
  have same := (verdict_eq_iff absolute absolute' plain).2 few
  refine ⟨absolute, absolute', plain, same, ?_⟩
  rw [same _ _ (by decide) (by decide)]
  decide

theorem verdict_ne_of_starred_root :
    Path.isAbsolute ⟨"/**"⟩ = true ∧ Path.isAbsolute ⟨"/r"⟩ = true ∧ NeverUp "include: src" ∧
      LeadsDown ⟨"x/src/f.c"⟩ ∧ verdict ⟨"/**"⟩ "include: src" ⟨"x/src/f.c"⟩ = .ok true ∧
      verdict ⟨"/r"⟩ "include: src" ⟨"x/src/f.c"⟩ = .ok false := by
  decide

end CompileTree.Filter
