import CompileTree.Filter
import CompileTree.Proofs.Glob.Below
import Mathlib.Data.List.Basic
import Mathlib.Data.List.DropRight

/-! # Which paths a filter includes

A rule applies to the paths that its glob, seen from the root, covers and to all
below them. The expressions that a filter is made of say just that, so a verdict
is read off the rules alone: some inclusion applies and no exclusion does.
-/

namespace CompileTree.Filter

/-! ## Reading the rules

Every line of a filter text that is not blank has to be a rule. The first one that
is not is reported; otherwise the rules are the lines with either keyword, in the
order of the text.
-/

/-- The lines of a filter text as they are read. -/
def ruleLines (text : String) : List (List Char) := (Text.lines text.toList).map Text.trim

/-- Neither blank nor a rule. -/
def malformed (line : List Char) : Bool :=
  !line.isEmpty && !"include:".toList.isPrefixOf line && !"exclude:".toList.isPrefixOf line

/-- The globs behind a keyword, without the margin that does not count. -/
def globsAfter (keyword text : String) : List (List Char) :=
  ((ruleLines text).filterMap (keyword.toList.isPrefixOf? ·)).map (Text.strip isGlobMargin)

section Reading

variable {line : List Char}

theorem isPrefixOf?_eq_none {keyword : List Char} (h : keyword.isPrefixOf line = false) :
    keyword.isPrefixOf? line = none := by
  rw [← Option.not_isSome_iff_eq_none, List.isSome_isPrefixOf?_eq_isPrefixOf, h]
  exact Bool.false_ne_true

theorem ofLine_of_malformed (h : malformed line = true) : Rule.ofLine line = .error line := by
  simp only [malformed, Bool.and_eq_true, Bool.not_eq_true', List.isEmpty_eq_false_iff] at h
  obtain ⟨⟨nonempty, noInclude⟩, noExclude⟩ := h
  rw [Rule.ofLine, if_neg nonempty, isPrefixOf?_eq_none noInclude,
    isPrefixOf?_eq_none noExclude]

/-- What a line says that is not malformed, as an inclusion and as an exclusion. -/
theorem ofLine_of_not_malformed (h : malformed line = false) :
    ∃ rule?, Rule.ofLine line = .ok rule? ∧
      rule?.bind Rule.included? = "include:".toList.isPrefixOf? line ∧
      rule?.bind Rule.excluded? = "exclude:".toList.isPrefixOf? line := by
  rw [Rule.ofLine]
  by_cases blank : line = []
  · subst blank
    exact ⟨none, rfl, rfl, rfl⟩
  · rw [if_neg blank]
    cases hinclude : "include:".toList.isPrefixOf? line with
    | some glob =>
        have noExclude : "exclude:".toList.isPrefixOf? line = none := by
          rw [← List.isPrefixOf?_eq_some_iff_append_eq.1 hinclude]
          rfl
        exact ⟨some (.including glob), rfl, rfl, noExclude.symm⟩
    | none =>
        cases hexclude : "exclude:".toList.isPrefixOf? line with
        | some glob => exact ⟨some (.excluding glob), rfl, rfl, rfl⟩
        | none =>
            have bad : malformed line = true := by
              rw [malformed, ← List.isSome_isPrefixOf?_eq_isPrefixOf, hinclude,
                ← List.isSome_isPrefixOf?_eq_isPrefixOf, hexclude]
              simpa using blank
            rw [h] at bad
            cases bad

end Reading

theorem mapM_ofLine (lines : List (List Char)) :
    match lines.find? malformed with
    | some line => lines.mapM Rule.ofLine = .error line
    | none => ∃ rs, lines.mapM Rule.ofLine = .ok rs ∧
        rs.filterMap (·.bind Rule.included?) = lines.filterMap ("include:".toList.isPrefixOf? ·) ∧
        rs.filterMap (·.bind Rule.excluded?) = lines.filterMap ("exclude:".toList.isPrefixOf? ·) := by
  induction lines with
  | nil => exact ⟨[], rfl, rfl, rfl⟩
  | cons line lines ih =>
      rw [List.find?_cons, List.mapM_cons]
      cases hbad : malformed line with
      | true =>
          rw [ofLine_of_malformed hbad]
          rfl
      | false =>
          obtain ⟨rule?, hread, hincluded, hexcluded⟩ := ofLine_of_not_malformed hbad
          rw [hread]
          simp only
          split at ih
          · next rest hrest =>
              rw [ih]
              rfl
          · next hrest =>
              obtain ⟨rs, hrs, hin, hex⟩ := ih
              refine ⟨rule? :: rs, by rw [hrs]; rfl, ?_, ?_⟩
              · rw [List.filterMap_cons, List.filterMap_cons, hincluded, hin]
              · rw [List.filterMap_cons, List.filterMap_cons, hexcluded, hex]

/-- The rules of a text, or its first malformed line. -/
theorem rules_eq (text : String) :
    match (ruleLines text).find? malformed with
    | some line => rules text.toList = .error line
    | none => ∃ rs, rules text.toList = .ok rs ∧
        (rs.filterMap Rule.included?).map (Text.strip isGlobMargin) = globsAfter "include:" text ∧
        (rs.filterMap Rule.excluded?).map (Text.strip isGlobMargin) = globsAfter "exclude:" text := by
  have byLines : rules text.toList = ((ruleLines text).mapM Rule.ofLine).map (·.filterMap id) := by
    rw [ruleLines, List.mapM_map]
    rfl
  have read := mapM_ofLine (ruleLines text)
  split at read
  · next line hline =>
      rw [byLines, read]
      rfl
  · next hline =>
      obtain ⟨rs, hrs, hin, hex⟩ := read
      refine ⟨rs.filterMap id, by rw [byLines, hrs]; rfl, ?_, ?_⟩
      · rw [List.filterMap_filterMap, globsAfter, ← hin]
        rfl
      · rw [List.filterMap_filterMap, globsAfter, ← hex]
        rfl

open CompileTree.Path CompileTree.Glob

/-- A glob seen from the root; the empty one is the root itself. -/
def seenFrom (root : Path) (glob : List Char) : List Char :=
  if glob = [] then normalChars root.chars else normalChars (root.chars ++ '/' :: glob)

/-- The rule with this glob applies to a path: its glob covers the path or a
    directory above it. -/
def Applies (root : Path) (glob : List Char) (p : Path) : Prop :=
  ∃ place ∈ ancestry p.normal.chars, Covers (seenFrom root glob) place

/-- Every absolute path lies below the root directory. -/
def StrictlyBelow (root p : Path) : Prop :=
  root.normal.chars = ['/'] ∨
    root.normal.chars ∈ ancestry p.normal.chars ∧ root.normal.chars ≠ p.normal.chars

/-! ## Patterns -/

section Patterns

variable {root : Path} {glob : List Char}

/-- The normal form of a path is its steps below the root. -/
theorem chars_normal_of_rooted {p : Path} (h : rooted p.chars = true) :
    p.normal.chars = absoluteText (steps p.chars) := by
  rw [chars_normal, normalChars_of_rooted h]

/-- Two stars behind a text are one more step, however it is read. -/
theorem steps_append_stars {pattern : List Char} (nonempty : pattern ≠ []) :
    steps (pattern ++ "/**".toList) = steps pattern ++ ["**".toList] := by
  refine (steps_append_slash (b := "**".toList) nonempty).trans ?_
  have piece : pieces "**".toList = ["**".toList] := by decide
  rw [piece, List.foldl_cons, List.foldl_nil, foldPiece_name (by decide) (by decide) (by decide),
    List.reverse_cons, List.reverse_reverse]

theorem steps_below {pattern : List Char} (h : rooted pattern = true) :
    normalChars (pattern ++ "/**".toList) = absoluteText (steps pattern ++ ["**".toList]) := by
  have nonempty : pattern ≠ [] := by
    rintro rfl
    cases h
  have below : rooted (pattern ++ "/**".toList) = true := by rw [rooted_append nonempty, h]
  rw [normalChars_of_rooted below, steps_append_stars nonempty]

/-- Only the root itself ends with a separator. -/
theorem dropRight_absoluteText {names : List (List Char)} (h : Steps names) :
    Text.dropRight (· == '/') (absoluteText names) = if names = [] then [] else absoluteText names := by
  split
  · next top =>
      subst top
      rfl
  · next below =>
      have noSlash : (absoluteText names).getLast? ≠ some '/' := by
        rw [getLast?_absoluteText h below]
        exact getLast?_intercalate h
      refine List.rdropWhile_eq_self_iff.2 fun hne slash => noSlash ?_
      rw [List.getLast?_eq_getLast_of_ne_nil hne]
      simpa using slash

theorem steps_slash_cons (cs : List Char) :
    steps ('/' :: cs) = ((pieces cs).foldl (foldPiece true) []).reverse := by
  have cut : pieces ('/' :: cs) = [] :: pieces cs := pieces_append_slash [] cs
  rw [steps, cut]
  rfl

theorem nonempty_of_rooted {cs : List Char} (h : rooted cs = true) : cs ≠ [] := by
  rintro rfl
  cases h

/-- A glob seen from the root has the same steps, however the root is spelled. -/
theorem steps_behind_root (h : rooted root.chars = true) (glob : List Char) :
    rooted (Text.dropRight (· == '/') (normalChars root.chars) ++ '/' :: glob) = true ∧
      steps (Text.dropRight (· == '/') (normalChars root.chars) ++ '/' :: glob) =
        steps (root.chars ++ '/' :: glob) := by
  rw [steps_append_slash (nonempty_of_rooted h), h, normalChars_of_rooted h,
    dropRight_absoluteText (steps_isSteps _)]
  split
  · next top =>
      rw [top]
      exact ⟨rfl, steps_slash_cons glob⟩
  · next below =>
      have settled : steps (absoluteText (steps root.chars)) = steps root.chars :=
        steps_absoluteText (h ▸ settled_steps root.chars)
      refine ⟨rfl, ?_⟩
      rw [steps_append_slash (by simp [absoluteText]), settled, rooted_absoluteText]

/-- The two patterns of a rule in normal form. -/
theorem normal_expand (h : rooted root.chars = true) (glob : List Char) :
    ∃ names, Steps names ∧ seenFrom root (Text.strip isGlobMargin glob) = absoluteText names ∧
      (expand (normalChars root.chars) glob).map normalChars =
        [absoluteText (names ++ ["**".toList]), absoluteText names] := by
  rw [seenFrom]
  simp only [expand, List.map_cons, List.map_nil]
  split
  · have settled : rooted (normalChars root.chars) = true := by
      rw [normalChars_of_rooted h, rooted_absoluteText]
    refine ⟨steps root.chars, steps_isSteps _, normalChars_of_rooted h, ?_⟩
    rw [steps_below settled, steps_normalChars h, normalChars_normalChars h, normalChars_of_rooted h]
  · next nonempty =>
      obtain ⟨behind, same⟩ := steps_behind_root h (Text.strip isGlobMargin glob)
      have seen : rooted (root.chars ++ '/' :: Text.strip isGlobMargin glob) = true := by
        rw [rooted_append (nonempty_of_rooted h), h]
      refine ⟨_, steps_isSteps _, normalChars_of_rooted seen, ?_⟩
      rw [steps_below behind, normalChars_of_rooted behind, same]

/-- A rule's patterns cover what the rule applies to. -/
theorem covers_expand_iff {p : Path} (hroot : rooted root.chars = true) (hp : rooted p.chars = true) :
    (∃ pattern ∈ expand (normalChars root.chars) glob, Covers (normalChars pattern) p.normal.chars) ↔
      Applies root (Text.strip isGlobMargin glob) p := by
  obtain ⟨names, hnames, seen, patterns⟩ := normal_expand hroot glob
  have normals : (∃ pattern ∈ expand (normalChars root.chars) glob,
      Covers (normalChars pattern) p.normal.chars) ↔
        ∃ q ∈ (expand (normalChars root.chars) glob).map normalChars, Covers q p.normal.chars := by
    simp only [List.mem_map, exists_exists_and_eq_and]
  rw [normals, patterns, Applies, seen, chars_normal_of_rooted hp]
  simp only [List.mem_cons, List.not_mem_nil, or_false, exists_eq_or_imp, exists_eq_left,
    mem_ancestry (steps_isSteps p.chars)]
  rw [covers_or_below_iff hnames (steps_isSteps p.chars)]
  constructor
  · rintro ⟨init, more, split, h⟩
    exact ⟨_, ⟨init, more, split, rfl⟩, h⟩
  · rintro ⟨_, ⟨init, more, split, rfl⟩, h⟩
    exact ⟨init, more, split, h⟩

/-- Without any inclusion, what lies strictly below the root is included. -/
theorem covers_everything_iff {p : Path} (hroot : rooted root.chars = true) (hp : rooted p.chars = true)
    (noStar : '*' ∉ root.normal.chars) (noQuestion : '?' ∉ root.normal.chars) :
    Covers (normalChars (normalChars root.chars ++ "/**".toList)) p.normal.chars ↔
      StrictlyBelow root p := by
  have settled : rooted (normalChars root.chars) = true := by
    rw [normalChars_of_rooted hroot, rooted_absoluteText]
  have hsteps := steps_isSteps p.chars
  rw [StrictlyBelow, steps_below settled, steps_normalChars hroot]
  rw [chars_normal_of_rooted hroot] at noStar noQuestion ⊢
  rw [chars_normal_of_rooted hp]
  by_cases top : steps root.chars = []
  · rw [top]
    exact ⟨fun _ => .inl rfl, fun _ => covers_stars_of_root _⟩
  · have notTop : absoluteText (steps root.chars) ≠ ['/'] := by
      simpa [absoluteText] using intercalate_ne_nil (steps_isSteps root.chars) top
    rw [absoluteText_append top (by simp)]
    refine (covers_below_of_no_stars (by rw [endStars_of_notMem noStar]; omega)).trans ?_
    simp only [covers_iff_eq noStar noQuestion, notTop, false_or, mem_ancestry hsteps]
    constructor
    · rintro ⟨_, z, cut, rfl⟩
      obtain ⟨init, more, split, -, -, hinit⟩ :=
        absoluteText_eq_append hsteps cut (by simp [absoluteText])
      exact ⟨⟨init, more, split, hinit⟩, by simp [cut]⟩
    · rintro ⟨⟨init, more, split, hinit⟩, strict⟩
      have hne : init ≠ [] := by
        rintro rfl
        exact notTop hinit
      have hmore : more ≠ [] := by
        rintro rfl
        exact strict (by rw [hinit, split, List.append_nil])
      exact ⟨_, ['/'].intercalate more, by rw [split, absoluteText_append hne hmore, ← hinit]; rfl, rfl⟩

end Patterns

/-! ## Verdicts -/

/-- The rules of a text let a path count. -/
def Counts (root : Path) (text : String) (p : Path) : Prop :=
  ((∃ glob ∈ globsAfter "include:" text, Applies root glob p) ∨
      globsAfter "include:" text = [] ∧ StrictlyBelow root p) ∧
    ¬ ∃ glob ∈ globsAfter "exclude:" text, Applies root glob p

section Verdicts

variable {root p q : Path} {text : String}

theorem flatMap_expand_eq_nil_iff {r : List Char} {globs : List (List Char)} :
    globs.flatMap (expand r) = [] ↔ globs = [] := by
  cases globs <;> simp [expand]

theorem accepts_flatMap_expand_iff {globs : List (List Char)} (hroot : rooted root.chars = true)
    (hp : rooted p.chars = true) (nonempty : globs ≠ []) :
    (Alternatives.ofPatterns (globs.flatMap (expand (normalChars root.chars)))).accepts
        (normalChars p.chars) = true ↔
      ∃ glob ∈ globs.map (Text.strip isGlobMargin), Applies root glob p := by
  rw [accepts_ofPatterns_iff (by rwa [ne_eq, flatMap_expand_eq_nil_iff]), ← chars_normal p]
  simp only [List.mem_map, exists_exists_and_eq_and, ← covers_expand_iff hroot hp, List.mem_flatMap]
  constructor
  · rintro ⟨pattern, ⟨glob, hglob, hpattern⟩, h⟩
    exact ⟨glob, hglob, pattern, hpattern, h⟩
  · rintro ⟨glob, hglob, pattern, hpattern, h⟩
    exact ⟨pattern, ⟨glob, hglob, hpattern⟩, h⟩

/-- The path is included without any inclusion just if it lies strictly below the root. -/
def ByDefault (root p : Path) : Prop :=
  Covers (normalChars (normalChars root.chars ++ "/**".toList)) p.normal.chars ↔ StrictlyBelow root p

/-- The included patterns of a filter cover what its inclusions say. -/
theorem accepts_included_iff {globs : List (List Char)} (hroot : rooted root.chars = true)
    (hp : rooted p.chars = true) (all : ByDefault root p) :
    (Alternatives.ofPatterns (if globs.flatMap (expand (normalChars root.chars)) = []
        then [normalChars root.chars ++ "/**".toList]
        else globs.flatMap (expand (normalChars root.chars)))).accepts (normalChars p.chars) = true ↔
      (∃ glob ∈ globs.map (Text.strip isGlobMargin), Applies root glob p) ∨
        globs.map (Text.strip isGlobMargin) = [] ∧ StrictlyBelow root p := by
  by_cases hglobs : globs = []
  · subst hglobs
    rw [List.flatMap_nil, if_pos rfl, accepts_ofPatterns_iff (by simp), ← chars_normal p]
    simpa only [ByDefault, List.mem_singleton, exists_eq_left, List.map_nil, List.not_mem_nil, false_and,
      exists_false, false_or, true_and] using all
  · rw [if_neg (by rwa [flatMap_expand_eq_nil_iff]), accepts_flatMap_expand_iff hroot hp hglobs]
    simp only [List.map_eq_nil_iff, hglobs, false_and, or_false]

/-- The excluded patterns of a filter cover what its exclusions apply to. -/
theorem accepts_excluded_iff {globs : List (List Char)} (hroot : rooted root.chars = true)
    (hp : rooted p.chars = true) :
    (if globs.flatMap (expand (normalChars root.chars)) = [] then none
        else some (Alternatives.ofPatterns (globs.flatMap (expand (normalChars root.chars))))).any
        (·.accepts (normalChars p.chars)) = true ↔
      ∃ glob ∈ globs.map (Text.strip isGlobMargin), Applies root glob p := by
  by_cases hglobs : globs = []
  · subst hglobs
    simp
  · rw [if_neg (by rwa [flatMap_expand_eq_nil_iff]), Option.any_some,
      accepts_flatMap_expand_iff hroot hp hglobs]

/-- A text without malformed lines makes a filter that decides by its rules where its
    default does. -/
theorem exists_ofText_byDefault (hroot : rooted root.chars = true)
    (wellFormed : (ruleLines text).find? malformed = none) :
    ∃ f, ofText root text = .ok f ∧ ∀ p : Path, rooted p.chars = true → ByDefault root p →
      (f.includes p = true ↔ Counts root text p) := by
  have read := rules_eq text
  rw [wellFormed] at read
  obtain ⟨rs, hrs, hin, hex⟩ := read
  rw [ofText, hrs]
  refine ⟨_, rfl, fun p hp all => ?_⟩
  rw [Counts, ← hin, ← hex, ← accepts_included_iff hroot hp all, ← accepts_excluded_iff hroot hp,
    includes, Bool.and_eq_true, Bool.not_eq_true', Bool.not_eq_true]

/-- A text without malformed lines makes a filter that decides by its rules. -/
theorem exists_ofText (hroot : rooted root.chars = true) (noStar : '*' ∉ root.normal.chars)
    (noQuestion : '?' ∉ root.normal.chars) (wellFormed : (ruleLines text).find? malformed = none) :
    ∃ f, ofText root text = .ok f ∧
      ∀ p : Path, rooted p.chars = true → (f.includes p = true ↔ Counts root text p) := by
  obtain ⟨f, hf, verdict⟩ := exists_ofText_byDefault hroot wellFormed
  exact ⟨f, hf, fun p hp => verdict p hp (covers_everything_iff hroot hp noStar noQuestion)⟩

section SameLines

variable {text' : String} (same : ∀ line, line ∈ ruleLines text' ↔ line ∈ ruleLines text)
include same

/-- The same lines have the same globs, wherever they stand. -/
theorem mem_globsAfter_congr {keyword : String} (glob : List Char) :
    glob ∈ globsAfter keyword text' ↔ glob ∈ globsAfter keyword text := by
  simp only [globsAfter, List.mem_map, List.mem_filterMap, same]

theorem counts_congr : Counts root text' p ↔ Counts root text p := by
  simp only [Counts, List.eq_nil_iff_forall_not_mem, mem_globsAfter_congr same]

theorem wellFormed_congr (wellFormed : (ruleLines text).find? malformed = none) :
    (ruleLines text').find? malformed = none := by
  rw [List.find?_eq_none] at wellFormed ⊢
  exact fun line hline => wellFormed line ((same line).1 hline)

end SameLines

/-- A rule that applies to a directory applies to everything in it. -/
theorem Applies.below {glob : List Char} (hp : rooted p.chars = true) (hq : rooted q.chars = true)
    (within : p.normal.chars ∈ ancestry q.normal.chars) (h : Applies root glob p) :
    Applies root glob q := by
  obtain ⟨place, hplace, hcovers⟩ := h
  rw [chars_normal_of_rooted hp] at within hplace
  rw [chars_normal_of_rooted hq] at within
  obtain ⟨dirs, names, split, hdirs⟩ := (mem_ancestry (steps_isSteps q.chars)).1 within
  rw [hdirs, mem_ancestry (split ▸ steps_isSteps q.chars).left] at hplace
  obtain ⟨init, more, rfl, rfl⟩ := hplace
  refine ⟨_, ?_, hcovers⟩
  rw [chars_normal_of_rooted hq, mem_ancestry (steps_isSteps q.chars)]
  exact ⟨init, more ++ names, by rw [split, List.append_assoc], rfl⟩

end Verdicts

end CompileTree.Filter
