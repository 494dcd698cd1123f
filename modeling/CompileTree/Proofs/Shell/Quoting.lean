import CompileTree.Compiler
import CompileTree.Synthesis

/-! # What is quoted splits back

A chunk keeps a style only while all its characters allow it. Whatever is written
in a style that is left is read back character for character, so a splitter that
stands in a word leaves a chunk with exactly its characters added to the word. The
first character of a written word neither separates words nor begins a remark.
-/

namespace CompileTree.Shell

/-- The styles that are left are those in which a chunk can be written. -/
def Styles.Fit (s : Styles) (chunk : List Char) : Prop :=
  (s.plain = true → ∀ c ∈ chunk, isPlain c = true) ∧ (s.single = true → '\'' ∉ chunk)

/-- The written form of a word that holds no NUL. -/
def writeWord : List Char → List Char
  | [] => ['\'', '\'']
  | c :: cs => writeChunks (Styles.start c) [c] cs

/-- A character with which a word can begin. -/
def Opens (c : Char) : Prop := isSpace c = false ∧ c ≠ '#'

/-! ## Styles -/

section Fitting

variable {s : Styles} {chunk : List Char} {c : Char}

theorem Styles.Fit.narrow (h : s.Fit chunk) : (s.narrow c).Fit (c :: chunk) := by
  constructor
  · intro plain
    obtain ⟨hs, hc⟩ : s.plain = true ∧ isPlain c = true := by simpa [Styles.narrow] using plain
    exact List.forall_mem_cons.2 ⟨hc, h.1 hs⟩
  · intro single
    obtain ⟨hs, hc⟩ : s.single = true ∧ c ∉ ['\'', '^', '\\'] := by
      simpa [Styles.narrow] using single
    rintro (_ | ⟨_, hquote⟩)
    · exact hc List.mem_cons_self
    · exact h.2 hs hquote

theorem Styles.fit_start (c : Char) : (Styles.start c).Fit [c] := by
  rw [Styles.start]
  split
  · next caret =>
      subst caret
      exact ⟨by simp, by decide⟩
  · have everything : (⟨true, true, true⟩ : Styles).Fit [] := ⟨by simp, by simp⟩
    exact everything.narrow

theorem Styles.Fit.reverse (h : s.Fit chunk) : s.Fit chunk.reverse :=
  ⟨fun plain c hc => h.1 plain c (List.mem_reverse.1 hc),
    fun single hc => h.2 single (List.mem_reverse.1 hc)⟩

/-- A character that means itself ends no word and begins no quotes. -/
theorem not_special_of_isPlain (h : isPlain c = true) :
    isSpace c = false ∧ c ≠ '#' ∧ c ≠ '\'' ∧ c ≠ '"' ∧ c ≠ '\\' := by
  refine ⟨?_, ?_, ?_, ?_, ?_⟩
  · rw [Bool.eq_false_iff]
    intro space
    simp only [isSpace, Bool.or_eq_true, beq_iff_eq] at space
    obtain (rfl | rfl) | rfl := space <;> revert h <;> decide
  all_goals
    rintro rfl
    revert h
    decide

end Fitting

/-! ## Reading a chunk back -/

section Reading

variable {word rest : List Char}

theorem splitFrom_between_cons (c : Char) (cs : List Char) :
    splitFrom .between word (c :: cs) =
      if isSpace c then splitFrom .between [] cs
      else if c = '#' then splitFrom .remark [] cs
      else if c = '\'' then splitFrom .single [] cs
      else if c = '"' then splitFrom .double [] cs
      else if c = '\\' then splitFrom .escaped [] cs
      else splitFrom .plain [c] cs := rfl

theorem splitFrom_plain_cons (c : Char) (cs : List Char) :
    splitFrom .plain word (c :: cs) =
      if isSpace c then (splitFrom .between [] cs).map (word.reverse :: ·)
      else if c = '\'' then splitFrom .single word cs
      else if c = '"' then splitFrom .double word cs
      else if c = '\\' then splitFrom .escaped word cs
      else splitFrom .plain (c :: word) cs := rfl

theorem splitFrom_single_cons (c : Char) (cs : List Char) :
    splitFrom .single word (c :: cs) =
      if c = '\'' then splitFrom .plain word cs else splitFrom .single (c :: word) cs := rfl

theorem splitFrom_double_cons (c : Char) (cs : List Char) :
    splitFrom .double word (c :: cs) =
      if c = '"' then splitFrom .plain word cs
      else if c = '\\' then splitFrom .doubleEscaped word cs
      else splitFrom .double (c :: word) cs := rfl

theorem splitFrom_doubleEscaped_cons (c : Char) (cs : List Char) :
    splitFrom .doubleEscaped word (c :: cs) =
      if c = '\n' then splitFrom .double word cs
      else if c ∈ ['$', '\x60', '"', '\\'] then splitFrom .double (c :: word) cs
      else splitFrom .double (c :: '\\' :: word) cs := rfl

theorem splitFrom_plain {chunk : List Char} (plain : ∀ c ∈ chunk, isPlain c = true) :
    splitFrom .plain word (chunk ++ rest) = splitFrom .plain (chunk.reverse ++ word) rest := by
  induction chunk generalizing word with
  | nil => rfl
  | cons c chunk ih =>
      obtain ⟨hc, hchunk⟩ := List.forall_mem_cons.1 plain
      obtain ⟨notSpace, -, notSingle, notDouble, notBackslash⟩ := not_special_of_isPlain hc
      rw [List.cons_append, splitFrom_plain_cons, notSpace, if_neg Bool.false_ne_true, if_neg notSingle,
        if_neg notDouble, if_neg notBackslash, ih hchunk, List.reverse_cons, List.append_assoc]
      rfl

theorem splitFrom_single {chunk : List Char} (noQuote : '\'' ∉ chunk) :
    splitFrom .single word (chunk ++ '\'' :: rest) =
      splitFrom .plain (chunk.reverse ++ word) rest := by
  induction chunk generalizing word with
  | nil => rw [List.nil_append, splitFrom_single_cons, if_pos rfl, List.reverse_nil, List.nil_append]
  | cons c chunk ih =>
      obtain ⟨hc, hchunk⟩ : '\'' ≠ c ∧ '\'' ∉ chunk := by simpa using noQuote
      rw [List.cons_append, splitFrom_single_cons, if_neg (Ne.symm hc), ih hchunk, List.reverse_cons,
        List.append_assoc]
      rfl

theorem splitFrom_double (chunk : List Char) :
    splitFrom .double word (escapeDouble chunk ++ '"' :: rest) =
      splitFrom .plain (chunk.reverse ++ word) rest := by
  induction chunk generalizing word with
  | nil => rw [escapeDouble, List.flatMap_nil, List.nil_append, splitFrom_double_cons, if_pos rfl,
      List.reverse_nil, List.nil_append]
  | cons c chunk ih =>
      have read : splitFrom .double word (escapeDouble (c :: chunk) ++ '"' :: rest) =
          splitFrom .double (c :: word) (escapeDouble chunk ++ '"' :: rest) := by
        rw [escapeDouble, List.flatMap_cons, ← escapeDouble, List.append_assoc]
        split
        · next escaped =>
            have notBreak : c ≠ '\n' := by
              rintro rfl
              revert escaped
              decide
            have notQuote : '\\' ≠ '"' := by decide
            rw [List.cons_append, List.singleton_append, splitFrom_double_cons, if_neg notQuote,
              if_pos rfl, splitFrom_doubleEscaped_cons, if_neg notBreak, if_pos escaped]
        · next literal =>
            have notQuote : c ≠ '"' := by
              rintro rfl
              exact literal (by decide)
            have notBackslash : c ≠ '\\' := by
              rintro rfl
              exact literal (by decide)
            rw [List.singleton_append, splitFrom_double_cons, if_neg notQuote, if_neg notBackslash]
      rw [read, ih, List.reverse_cons, List.append_assoc]
      rfl

/-- A splitter in a word reads a written chunk as its characters. -/
theorem splitFrom_write {s : Styles} {chunk : List Char} (h : s.Fit chunk) :
    splitFrom .plain word (s.write chunk ++ rest) = splitFrom .plain (chunk.reverse ++ word) rest := by
  rw [Styles.write]
  split
  · next plain => exact splitFrom_plain (h.1 plain)
  · split
    · next single =>
        rw [List.cons_append, List.cons_append, List.append_assoc, List.singleton_append,
          splitFrom_plain_cons, if_neg (by decide), if_pos rfl, splitFrom_single (h.2 single)]
    · rw [List.cons_append, List.cons_append, List.append_assoc, List.singleton_append,
        splitFrom_plain_cons, if_neg (by decide), if_neg (by decide), if_pos rfl, splitFrom_double]

theorem splitFrom_writeChunks {s : Styles} {chunk : List Char} (h : s.Fit chunk) (cs : List Char) :
    splitFrom .plain word (writeChunks s chunk cs ++ rest) =
      splitFrom .plain (cs.reverse ++ chunk ++ word) rest := by
  induction cs generalizing s chunk word with
  | nil => rw [writeChunks, splitFrom_write h.reverse, List.reverse_reverse, List.reverse_nil,
      List.nil_append]
  | cons c cs ih =>
      rw [writeChunks]
      split
      · rw [List.append_assoc, splitFrom_write h.reverse, ih (Styles.fit_start c)]
        simp
      · rw [ih h.narrow]
        simp

end Reading

/-! ## Words -/

section Words

variable {s : Styles} {chunk rest : List Char}

theorem opens_write (h : s.Fit chunk) (nonempty : chunk ≠ []) :
    ∃ c cs, s.write chunk = c :: cs ∧ Opens c := by
  rw [Styles.write]
  split
  · next plain =>
      obtain ⟨c, cs, rfl⟩ := List.exists_cons_of_ne_nil nonempty
      obtain ⟨notSpace, notRemark, -⟩ := not_special_of_isPlain (h.1 plain c List.mem_cons_self)
      exact ⟨c, cs, rfl, notSpace, notRemark⟩
  · split
    · exact ⟨'\'', _, rfl, by decide, by decide⟩
    · exact ⟨'"', _, rfl, by decide, by decide⟩

theorem opens_writeChunks (h : s.Fit chunk) (nonempty : chunk ≠ []) (cs : List Char) :
    ∃ d ds, writeChunks s chunk cs = d :: ds ∧ Opens d := by
  induction cs generalizing s chunk with
  | nil => exact opens_write h.reverse (by simpa using nonempty)
  | cons c cs ih =>
      rw [writeChunks]
      split
      · obtain ⟨d, ds, hd, opens⟩ := opens_write h.reverse (by simpa using nonempty)
        exact ⟨d, _, by rw [hd]; rfl, opens⟩
      · exact ih h.narrow (List.cons_ne_nil c chunk)

/-- Before a word, a character that can begin one is read as within a word. -/
theorem splitFrom_between {c : Char} (opens : Opens c) (cs : List Char) :
    splitFrom .between [] (c :: cs) = splitFrom .plain [] (c :: cs) := by
  rw [splitFrom_between_cons, splitFrom_plain_cons, opens.1, if_neg Bool.false_ne_true,
    if_neg Bool.false_ne_true, if_neg opens.2]

theorem splitFrom_writeWord (word : List Char) :
    splitFrom .between [] (writeWord word ++ rest) = splitFrom .plain word.reverse rest := by
  cases word with
  | nil => rfl
  | cons c cs =>
      have fit := Styles.fit_start c
      obtain ⟨d, ds, hd, opens⟩ := opens_writeChunks fit (List.cons_ne_nil c []) cs
      have written : writeWord (c :: cs) = d :: ds := hd
      rw [written, List.cons_append, splitFrom_between opens, ← List.cons_append, ← hd,
        splitFrom_writeChunks fit, List.append_nil, List.reverse_cons]

/-- Written words with a blank between them split into the words. -/
theorem splitFrom_intercalate (words : List (List Char)) :
    splitFrom .between [] ([' '].intercalate (words.map writeWord)) = some words := by
  induction words with
  | nil => rfl
  | cons word words ih =>
      by_cases last : words = []
      · subst last
        have alone : splitFrom .between [] (writeWord word ++ []) = splitFrom .plain word.reverse [] :=
          splitFrom_writeWord word
        rw [List.append_nil] at alone
        rw [List.map_singleton, List.intercalate_singleton, alone, splitFrom, List.reverse_reverse]
      · have more : words.map writeWord ≠ [] := by simpa using last
        rw [List.map_cons, List.intercalate_cons_of_ne_nil more, List.append_assoc,
          splitFrom_writeWord, List.singleton_append, splitFrom, if_pos (by decide), ih,
          List.reverse_reverse]
        rfl

end Words

/-! ## Lines -/

theorem quoteWord?_eq (word : List Char) :
    quoteWord? word = if '\x00' ∈ word then none else some (writeWord word) := by
  cases word <;> rfl

theorem mapM_quoteWord (words : List String) :
    (words.mapM fun w => quoteWord? w.toList) =
      if ∃ w ∈ words, '\x00' ∈ w.toList then none
      else some ((words.map String.toList).map writeWord) := by
  induction words with
  | nil => simp
  | cons w words ih =>
      rw [List.mapM_cons, ih, quoteWord?_eq]
      by_cases first : '\x00' ∈ w.toList
      · simp [first]
      · by_cases later : ∃ w ∈ words, '\x00' ∈ w.toList <;> simp [first, later]

/-- A line is refused exactly if a word holds a NUL; every other line splits back. -/
theorem split_quote (words : List String) :
    if ∃ w ∈ words, '\x00' ∈ w.toList then quote? words = none
    else ∃ line, quote? words = some line ∧ split? line = some words := by
  rw [quote?, mapM_quoteWord]
  split
  · rfl
  · refine ⟨_, rfl, ?_⟩
    rw [split?, String.toList_ofList, splitFrom_intercalate]
    simp

end CompileTree.Shell

namespace CompileTree

/-- A command is refused exactly if one of its words holds a NUL, and any other
    command has the words it was made of. The same holds of the arguments that are
    kept in a file for clang. -/
theorem words_toCommand (spec : Spec) (c cxx : Path) (arguments : List String) :
    (if ∃ w ∈ spec.words, '\x00' ∈ w.toList then spec.toCommand? = none
      else ∃ command, spec.toCommand? = some command ∧ command.words? = some spec.words) ∧
    (if ∃ w ∈ arguments, '\x00' ∈ w.toList then
        (Compiler.clang c cxx).responseText? arguments = none
      else ∃ text, (Compiler.clang c cxx).responseText? arguments = some text ∧
        Shell.split? text = some arguments) := by
  refine ⟨?_, Shell.split_quote arguments⟩
  have quoted := Shell.split_quote spec.words
  split at quoted
  · next nul => rw [if_pos nul, Spec.toCommand?, quoted, Option.map_none]
  · next noNul =>
      obtain ⟨line, hline, hsplit⟩ := quoted
      rw [if_neg noNul, Spec.toCommand?, hline]
      exact ⟨_, rfl, hsplit⟩

end CompileTree
