import CompileTree.Proofs.Glob.Expression
import CompileTree.Proofs.Glob.Language

/-! # Alternative globs

Several globs are written as one anchored expression. Read as a matching engine
reads it, that expression matches exactly the texts that one of the globs covers,
and so do the alternatives themselves.
-/

namespace CompileTree.Glob

namespace Expression.Level

/-- The level after reading groups with `|` between them. -/
def addAll (l : Level) : List Regex → Level
  | [] => l
  | [r] => l.add (sequence r.items)
  | r :: s :: rs => (l.add (sequence r.items)).nextChoice.addAll (s :: rs)

theorem finds_addAll {l : Level} {rs : List Regex} {before found after : List Char}
    (nothingYet : l.row = []) (nonempty : rs ≠ []) :
    (l.addAll rs).whole.Finds before found after ↔
      (∃ choice ∈ l.choices, choice.Finds before found after) ∨ ∃ r ∈ rs, r.Matches found := by
  induction rs generalizing l with
  | nil => exact absurd rfl nonempty
  | cons r rs ih =>
      have current : (sequence [sequence r.items]).Finds before found after ↔ r.Matches found := by
        rw [finds_sequence_singleton, Regex.finds_items]
      cases rs with
      | nil =>
          have lastRow : (l.add (sequence r.items)).row.reverse = [sequence r.items] := by
            simp [add, nothingYet]
          rw [addAll, finds_whole, lastRow, current]
          simp [add]
      | cons s rs =>
          have choices : (l.add (sequence r.items)).nextChoice.choices =
              sequence [sequence r.items] :: l.choices := by
            simp [add, nextChoice, nothingYet]
          rw [addAll, ih rfl (by simp), choices]
          simp only [List.mem_cons, exists_eq_or_imp, current]
          grind

end Expression.Level

namespace Alternatives

open Expression

theorem read_choices {l : Level} {outer : List Level} {rs : List Regex} {cs : List Char} :
    Expression.read l outer (['|'].intercalate (rs.map groupText) ++ cs) =
      Expression.read (l.addAll rs) outer cs := by
  induction rs generalizing l with
  | nil => rfl
  | cons r rs ih =>
      cases rs with
      | nil =>
          rw [List.map_singleton, List.intercalate_singleton, Regex.read_groupText]
          rfl
      | cons s rs =>
          have bar : Expression.read (l.add (sequence r.items)) outer
              ('|' :: (['|'].intercalate ((s :: rs).map groupText) ++ cs)) =
                Expression.read (l.add (sequence r.items)).nextChoice outer
                  (['|'].intercalate ((s :: rs).map groupText) ++ cs) := rfl
          rw [List.map_cons, List.map_cons, List.intercalate_cons_cons, List.append_assoc,
            List.append_assoc, Regex.read_groupText, List.singleton_append, ← List.map_cons, bar, ih]
          rfl

theorem text_eq (a : Alternatives) :
    a.text = '\\' :: 'A' :: '(' :: '?' :: ':' ::
      (['|'].intercalate (a.choices.map groupText) ++ [')', '\\', 'z']) := rfl

/-- How the written alternatives are read. -/
theorem ofText?_text (a : Alternatives) :
    Expression.ofText? a.text =
      some (Expression.sequence [.start, ((Level.fresh false).addAll a.choices).whole, .finish]) := by
  have opened : Expression.ofText? a.text =
      Expression.read (.fresh false) [(Level.fresh false).add .start]
        (['|'].intercalate (a.choices.map groupText) ++ [')', '\\', 'z']) := by
    rw [text_eq]
    rfl
  rw [opened, read_choices]
  rfl

/-- Both anchors together leave only the whole text. -/
theorem isMatch_anchored {e : Expression} {s : List Char} :
    (Expression.sequence [.start, e, .finish]).IsMatch s ↔ e.Finds [] s [] := by
  constructor
  · rintro ⟨before, found, after, rfl, h⟩
    obtain ⟨_, _, rfl, hstart, h⟩ := finds_sequence_cons.1 h
    obtain ⟨u, _, rfl, he, h⟩ := finds_sequence_cons.1 h
    obtain hfinish := finds_sequence_singleton.1 h
    cases hstart
    cases hfinish
    simpa using he
  · intro h
    refine ⟨[], s, [], by simp, finds_sequence_cons.2 ⟨[], s, rfl, .start, ?_⟩⟩
    exact finds_sequence_cons.2 ⟨s, [], by simp, by simpa using h, finds_sequence_singleton.2 .finish⟩

theorem isMatch_choices {a : Alternatives} {s : List Char} (nonempty : a.choices ≠ []) :
    (Expression.sequence [.start, ((Level.fresh false).addAll a.choices).whole, .finish]).IsMatch s ↔
      ∃ r ∈ a.choices, r.Matches s := by
  rw [isMatch_anchored, Level.finds_addAll rfl nonempty]
  simp [Level.fresh]

/-- Alternatives accept a text when one of the patterns covers all of it, and so
    does the expression with which they are written. -/
theorem accepts_ofPatterns (patterns : List (List Char)) (nonempty : patterns ≠ []) :
    ∃ e, Expression.ofText? (ofPatterns patterns).text = some e ∧
      ∀ s, (e.IsMatch s ↔ ∃ p ∈ patterns, Covers (Path.normalChars p) s) ∧
        ((ofPatterns patterns).accepts s = true ↔ ∃ p ∈ patterns, Covers (Path.normalChars p) s) := by
  have choices : (ofPatterns patterns).choices ≠ [] := by simpa [ofPatterns] using nonempty
  refine ⟨_, ofText?_text _, fun s => ⟨?_, accepts_ofPatterns_iff nonempty⟩⟩
  rw [isMatch_choices choices]
  constructor
  · rintro ⟨r, hr, hs⟩
    obtain ⟨p, hp, rfl⟩ := List.mem_map.1 hr
    exact ⟨p, hp, matches_regex_iff.1 hs⟩
  · rintro ⟨p, hp, hs⟩
    exact ⟨regex p, List.mem_map_of_mem hp, matches_regex_iff.2 hs⟩

theorem accepts_ofPatterns_zeroLevels :
    ["*.c".toList, "a/**/b".toList] ≠ [] ∧
      (ofPatterns ["*.c".toList, "a/**/b".toList]).accepts "a/b".toList = true := by
  have nonempty : ["*.c".toList, "a/**/b".toList] ≠ [] := by decide
  obtain ⟨e, -, he⟩ := accepts_ofPatterns ["*.c".toList, "a/**/b".toList] nonempty
  have covered : Covers "a/**/b".toList "a/b".toList :=
    .plain (by decide) (by decide) <| .plain (by decide) (by decide) <|
      @Covers.directories 2 ['b'] [] ['b'] (by decide) (.inl rfl) <|
        .plain (by decide) (by decide) .done
  have normal : Path.normalChars "a/**/b".toList = "a/**/b".toList := by decide
  exact ⟨nonempty, (he _).2.2 ⟨"a/**/b".toList, by simp, normal ▸ covered⟩⟩

end Alternatives

end CompileTree.Glob
