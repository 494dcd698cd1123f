import CompileTree.Include.Directive
import Mathlib.Data.List.Basic

/-! # What a text asks for

A directive is spelled at the start of a line, and what follows it there is free. No
directive reaches into the next line, and what stands before or after a line does not
change what it asks for. So a text asks for what its lines ask for, one after the other
(`directives_eq_iff`).
-/

namespace CompileTree.Include

/-- How a directive is spelled. Its opening and its closing mark need not agree, and the
    blanks around its name do not count. -/
inductive Spells : List Char → Directive → Prop where
  | spell {indent gap space body : List Char} {opener closer : Char} :
      (∀ c ∈ indent ++ gap ++ space, c = ' ' ∨ c = '\t') → (opener = '<' ∨ opener = '"') →
      body ≠ [] → (∀ c ∈ body, c ≠ '"' ∧ c ≠ '>' ∧ c ≠ '\r') → (closer = '"' ∨ closer = '>') →
      Spells (indent ++ '#' :: (gap ++ "include".toList ++ (space ++ opener :: (body ++ [closer]))))
        ⟨String.ofList (Text.trim body), opener == '"'⟩

/-- A line asks for a file if it starts with a directive. -/
def Asks (line : List Char) (d : Directive) : Prop :=
  ∃ spelling rest, Spells spelling d ∧ line = spelling ++ rest

/-- What lines ask for: each of them for one file or for none. -/
inductive Reads : List (List Char) → List Directive → Prop where
  | done : Reads [] []
  | request {line lines d found} : Asks line d → Reads lines found →
      Reads (line :: lines) (d :: found)
  | pass {line lines found} : (∀ d, ¬ Asks line d) → Reads lines found → Reads (line :: lines) found

/-! ## One line -/

section Line

variable {cs line rest : List Char} {opener c : Char} {d : Directive}

/-- What is dropped ends before the first character that is not to be dropped. -/
theorem exists_of_dropWhile_eq_cons {drop : Char → Bool} (h : cs.dropWhile drop = c :: rest) :
    ∃ before, cs.takeWhile drop = before ∧ (∀ x ∈ before, drop x = true) ∧ cs = before ++ c :: rest :=
  ⟨_, rfl, List.all_eq_true.1 List.all_takeWhile, by rw [← h, List.takeWhile_append_dropWhile]⟩

section Exact

variable {drop : Char → Bool} {before : List Char} (dropped : ∀ x ∈ before, drop x = true)
  (ends : drop c = false)
include dropped ends

theorem takeWhile_append_cons : (before ++ c :: rest).takeWhile drop = before := by
  rw [List.takeWhile_append_of_pos dropped, List.takeWhile_cons_of_neg (by simp [ends]), List.append_nil]

theorem dropWhile_append_cons : (before ++ c :: rest).dropWhile drop = c :: rest := by
  rw [List.dropWhile_append_of_pos dropped, List.dropWhile_cons_of_neg (by simp [ends])]

end Exact

/-- A name goes on until the first character that cannot stand in it. -/
theorem afterOpener?_eq_some_iff :
    afterOpener? opener cs = some d ↔
      ∃ body closer rest, (opener = '<' ∨ opener = '"') ∧ body ≠ [] ∧
        (∀ x ∈ body, endsName x = false) ∧ (closer = '"' ∨ closer = '>') ∧
        ⟨String.ofList (Text.trim body), opener == '"'⟩ = d ∧ cs = body ++ closer :: rest := by
  constructor
  · intro h
    rw [afterOpener?.eq_def] at h
    cases hrest : cs.dropWhile (!endsName ·) with
    | nil => simp [hrest] at h
    | cons closer rest =>
        obtain ⟨body, hbody, inside, hcs⟩ := exists_of_dropWhile_eq_cons hrest
        simp only [hrest, hbody] at h
        split at h
        · next counted =>
            obtain ⟨hopener, nonempty, hcloser⟩ := counted
            exact ⟨body, closer, rest, hopener.symm, nonempty, by simpa using inside, hcloser,
              Option.some.inj h, hcs⟩
        · cases h
  · rintro ⟨body, closer, rest, hopener, nonempty, inside, hcloser, rfl, rfl⟩
    have inside : ∀ x ∈ body, (!endsName x) = true := by simpa using inside
    have ends : (!endsName closer) = false := by
      rcases hcloser with rfl | rfl <;> decide
    simp [afterOpener?, takeWhile_append_cons inside ends, dropWhile_append_cons inside ends,
      hopener.symm, nonempty, hcloser]

/-- The word of a directive behind its first letter. -/
def wordRest : List Char := ['n', 'c', 'l', 'u', 'd', 'e']

theorem word_eq : "include".toList = 'i' :: wordRest := by
  decide

/-- What stands between the blanks of a directive. -/
theorem directive?_eq_some_iff_parts :
    directive? cs = some d ↔ ∃ afterHash afterWord opener afterMark,
      cs.dropWhile isGap = '#' :: afterHash ∧ afterHash.dropWhile isGap = 'i' :: (wordRest ++ afterWord) ∧
      afterWord.dropWhile isGap = opener :: afterMark ∧ afterOpener? opener afterMark = some d := by
  constructor
  · intro h
    rw [directive?.eq_def, word_eq] at h
    split at h
    · next afterHash hash =>
        split at h
        · cases h
        · next afterWord word =>
            split at h
            · cases h
            · next opener afterMark mark =>
                exact ⟨afterHash, afterWord, opener, afterMark, hash,
                  (List.isPrefixOf?_eq_some_iff_append_eq.1 word).symm, mark, h⟩
    · cases h
  · rintro ⟨afterHash, afterWord, opener, afterMark, hash, word, mark, h⟩
    have word : ('i' :: wordRest).isPrefixOf? (afterHash.dropWhile isGap) = some afterWord :=
      List.isPrefixOf?_eq_some_iff_append_eq.2 word.symm
    rw [directive?, word_eq, hash]
    simp only [word, mark, h]

/-- A text starts with a directive if it starts with a spelling of it on one line. -/
theorem directive?_eq_some_iff :
    directive? cs = some d ↔ ∃ spelling rest, Spells spelling d ∧ '\n' ∉ spelling ∧ cs = spelling ++ rest := by
  have blank : ∀ {gap : List Char}, (∀ x ∈ gap, isGap x = true) ↔ ∀ x ∈ gap, x = ' ' ∨ x = '\t' := by
    simp [isGap]
  have named : ∀ {x : Char}, endsName x = false ↔ (x ≠ '"' ∧ x ≠ '>' ∧ x ≠ '\r') ∧ x ≠ '\n' := by
    simp [endsName, and_assoc]
  rw [directive?_eq_some_iff_parts]
  constructor
  · rintro ⟨afterHash, afterWord, opener, afterMark, hash, word, mark, h⟩
    obtain ⟨indent, -, hindent, rfl⟩ := exists_of_dropWhile_eq_cons hash
    obtain ⟨gap, -, hgap, rfl⟩ := exists_of_dropWhile_eq_cons word
    obtain ⟨space, -, hspace, rfl⟩ := exists_of_dropWhile_eq_cons mark
    obtain ⟨body, closer, rest, hopener, nonempty, inside, hcloser, rfl, rfl⟩ :=
      afterOpener?_eq_some_iff.1 h
    have blanks : ∀ x ∈ indent ++ gap ++ space, x = ' ' ∨ x = '\t' := by
      simp only [List.mem_append, or_imp, forall_and]
      exact ⟨⟨blank.1 hindent, blank.1 hgap⟩, blank.1 hspace⟩
    refine ⟨_, rest, .spell blanks hopener nonempty ?_ hcloser, ?_, by simp [word_eq]⟩
    · exact fun x hx => (named.1 (inside x hx)).1
    · have inBody : '\n' ∉ body := fun h => (named.1 (inside _ h)).2 rfl
      have inBlank : '\n' ∉ indent ∧ '\n' ∉ gap ∧ '\n' ∉ space :=
        ⟨fun h => absurd (hindent _ h) (by decide), fun h => absurd (hgap _ h) (by decide),
          fun h => absurd (hspace _ h) (by decide)⟩
      have marks : '\n' ≠ opener ∧ '\n' ≠ closer :=
        ⟨by rcases hopener with rfl | rfl <;> decide, by rcases hcloser with rfl | rfl <;> decide⟩
      simp [word_eq, wordRest, inBody, inBlank, marks]
  · rintro ⟨_, rest, @⟨indent, gap, space, body, opener, closer, hblank, hopener, nonempty, inside,
      hcloser⟩, oneLine, rfl⟩
    simp only [List.mem_append, or_imp, forall_and] at hblank
    obtain ⟨⟨hindent, hgap⟩, hspace⟩ := hblank
    have inside : ∀ x ∈ body, endsName x = false := fun x hx =>
      named.2 ⟨inside x hx, by rintro rfl; exact oneLine (by simp [hx])⟩
    have opens : isGap opener = false := by rcases hopener with rfl | rfl <;> decide
    have whole : indent ++ '#' :: (gap ++ "include".toList ++ (space ++ opener :: (body ++ [closer]))) ++ rest =
        indent ++ '#' :: (gap ++ 'i' :: (wordRest ++ (space ++ opener :: (body ++ closer :: rest)))) := by
      simp [word_eq]
    refine ⟨gap ++ 'i' :: (wordRest ++ (space ++ opener :: (body ++ closer :: rest))),
      space ++ opener :: (body ++ closer :: rest), opener, body ++ closer :: rest, ?_, ?_, ?_, ?_⟩
    · rw [whole]
      exact dropWhile_append_cons (blank.2 hindent) (by decide)
    · exact dropWhile_append_cons (blank.2 hgap) (by decide)
    · exact dropWhile_append_cons (blank.2 hspace) opens
    · exact afterOpener?_eq_some_iff.2 ⟨body, closer, rest, hopener, nonempty, inside, hcloser, rfl, rfl⟩

/-- What follows a line does not change what it starts with. -/
theorem directive?_append_lineFeed (oneLine : '\n' ∉ line) (rest : List Char) :
    directive? (line ++ '\n' :: rest) = directive? line := by
  refine Option.ext fun d => ?_
  rw [directive?_eq_some_iff, directive?_eq_some_iff]
  constructor
  · rintro ⟨spelling, after, spells, within, whole⟩
    rcases List.append_eq_append_iff.1 whole with ⟨more, rfl, h⟩ | ⟨more, rfl, -⟩
    · cases more with
      | nil => exact ⟨_, [], spells, within, by simp⟩
      | cons c more =>
          obtain ⟨rfl, -⟩ := List.cons_eq_cons.1 h
          exact absurd (by simp) within
    · exact ⟨spelling, more, spells, within, rfl⟩
  · rintro ⟨spelling, after, spells, within, rfl⟩
    exact ⟨spelling, after ++ '\n' :: rest, spells, within, by simp⟩

theorem asks_iff (oneLine : '\n' ∉ line) : Asks line d ↔ directive? line = some d := by
  rw [directive?_eq_some_iff]
  constructor
  · rintro ⟨spelling, rest, spells, rfl⟩
    exact ⟨spelling, rest, spells, fun h => oneLine (List.mem_append_left _ h), rfl⟩
  · rintro ⟨spelling, rest, spells, -, rfl⟩
    exact ⟨spelling, rest, spells, rfl⟩

end Line

/-! ## All lines -/

section Lines

variable {lineStarts : Bool} {line rest : List Char} {lines : List (List Char)}
  {found : List Directive}

theorem scan_line (oneLine : '\n' ∉ line) :
    scan lineStarts line = if lineStarts then (directive? line).toList else [] := by
  induction line generalizing lineStarts with
  | nil => cases lineStarts <;> rfl
  | cons c line ih =>
      rw [List.mem_cons, not_or] at oneLine
      rw [scan, beq_eq_false_iff_ne.2 (Ne.symm oneLine.1), ih oneLine.2]
      cases lineStarts with
      | false => rfl
      | true => cases directive? (c :: line) <;> rfl

/-- A line is read as if nothing followed, and what follows it as if nothing had been before. -/
theorem scan_append_lineFeed (oneLine : '\n' ∉ line) :
    scan lineStarts (line ++ '\n' :: rest) = scan lineStarts line ++ scan true rest := by
  induction line generalizing lineStarts with
  | nil => cases lineStarts <;> rfl
  | cons c line ih =>
      have unchanged := directive?_append_lineFeed oneLine rest
      rw [List.mem_cons, not_or] at oneLine
      rw [List.cons_append] at unchanged ⊢
      rw [scan, scan, unchanged, beq_eq_false_iff_ne.2 (Ne.symm oneLine.1), ih oneLine.2]
      cases lineStarts with
      | false => rfl
      | true => cases directive? (c :: line) <;> rfl

/-- A text is one line, or goes on behind its first one. -/
theorem lines_induction {motive : List Char → Prop} (last : ∀ line, '\n' ∉ line → motive line)
    (more : ∀ line rest, '\n' ∉ line → motive rest → motive (line ++ '\n' :: rest)) (cs : List Char) :
    motive cs := by
  induction h : cs.length using Nat.strongRecOn generalizing cs with
  | ind n ih =>
      by_cases ends : '\n' ∈ cs
      · obtain ⟨line, rest, rfl, oneLine⟩ := List.eq_append_cons_of_mem ends
        refine more line rest oneLine (ih rest.length ?_ rest rfl)
        rw [← h]
        simp
        omega
      · exact last cs ends

theorem reads_cons_iff (oneLine : '\n' ∉ line) :
    Reads (line :: lines) found ↔ ∃ others, Reads lines others ∧ found = (directive? line).toList ++ others := by
  constructor
  · intro h
    cases h with
    | request asks others => exact ⟨_, others, by rw [(asks_iff oneLine).1 asks]; rfl⟩
    | pass asksNone others =>
        have none : directive? line = none :=
          Option.eq_none_iff_forall_ne_some.2 fun d h => asksNone d ((asks_iff oneLine).2 h)
        exact ⟨_, others, by rw [none]; rfl⟩
  · rintro ⟨others, hothers, rfl⟩
    cases h : directive? line with
    | some d => exact .request ((asks_iff oneLine).2 h) hothers
    | none =>
        refine .pass (fun d asks => ?_) hothers
        rw [(asks_iff oneLine).1 asks] at h
        cases h

theorem reads_nil_iff : Reads [] found ↔ found = [] :=
  ⟨fun h => by cases h; rfl, fun h => h ▸ .done⟩

theorem scan_eq_iff_reads (cs : List Char) (found : List Directive) :
    scan true cs = found ↔ Reads (cs.splitOn '\n') found := by
  induction cs using lines_induction generalizing found with
  | last line oneLine =>
      rw [List.splitOn_eq_singleton oneLine, reads_cons_iff oneLine, scan_line oneLine]
      simp [reads_nil_iff, eq_comm]
  | more line rest oneLine ih =>
      rw [List.splitOn_append_cons_self_of_not_mem oneLine, reads_cons_iff oneLine,
        scan_append_lineFeed oneLine, scan_line oneLine]
      simp [← ih, eq_comm]

theorem scan_append (a b : List Char) : scan true (a ++ '\n' :: b) = scan true a ++ scan true b := by
  induction a using lines_induction with
  | last line oneLine => exact scan_append_lineFeed oneLine
  | more line rest oneLine ih =>
      rw [List.append_assoc, List.cons_append, scan_append_lineFeed oneLine, ih, ← List.append_assoc,
        ← scan_append_lineFeed oneLine]

end Lines

/-- A text asks for what its lines ask for, in their order; so what is written behind the
    end of a line is asked for behind what was asked for until then. -/
theorem directives_eq_iff (a b : String) :
    (∀ found, directives a = found ↔ Reads (a.toList.splitOn '\n') found) ∧
      directives (a ++ "\n" ++ b) = directives a ++ directives b := by
  refine ⟨scan_eq_iff_reads a.toList, ?_⟩
  have spelled : (a ++ "\n" ++ b).toList = a.toList ++ '\n' :: b.toList := by simp
  rw [directives, spelled, scan_append]
  rfl

end CompileTree.Include
