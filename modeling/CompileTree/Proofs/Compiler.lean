import CompileTree.Compiler.Discovery
import CompileTree.Invocation
import CompileTree.Proofs.Path.Normal
import Mathlib

/-! # What is written for compilers and what they tell

Both are lines. A file of arguments for cl tells the lines of its arguments and nothing
else, so the arguments can be recovered as long as each of them is one line
(`recoverable_iff_oneLine`). A report of clang tells the directories between its two
marks, whatever stands before and behind them and however its lines are spaced
(`searchList_report`).
-/

namespace CompileTree

/-! ## Lines and blanks -/

namespace Text

/-- The text of lines, each with its end. -/
def unlines (ls : List (List Char)) : List Char := ls.flatMap (· ++ ['\n'])

section Lines

variable {line content cs rest : List Char} {ls ls' : List (List Char)} {c : Char}

theorem unlines_cons : unlines (line :: ls) = line ++ '\n' :: unlines ls := by
  rw [unlines, List.flatMap_cons, List.append_assoc]
  rfl

theorem splitOn_unlines (ls : List (List Char)) :
    (unlines ls).splitOn '\n' = ls.flatMap (·.splitOn '\n') ++ [[]] := by
  induction ls with
  | nil => rfl
  | cons line ls ih =>
      rw [unlines_cons, List.splitOn_append_cons_self, ih, List.flatMap_cons, List.append_assoc]

/-- What is written line by line has the lines that its parts hold, and no others. -/
theorem unlines_eq_iff :
    unlines ls = unlines ls' ↔ ls.flatMap (·.splitOn '\n') = ls'.flatMap (·.splitOn '\n') := by
  constructor
  · intro same
    have cut := congrArg (List.splitOn '\n') same
    rwa [splitOn_unlines, splitOn_unlines, List.append_left_inj] at cut
  · intro same
    have cut : (unlines ls).splitOn '\n' = (unlines ls').splitOn '\n' := by
      rw [splitOn_unlines, splitOn_unlines, same]
    have joined : ∀ cs : List Char, ['\n'].intercalate (cs.splitOn '\n') = cs :=
      fun _ => List.intercalate_splitOn '\n'
    rw [← joined (unlines ls), cut, joined]

theorem lines_cons (notEnd : c ≠ '\n') (notReturn : c = '\r' → cs.head? ≠ some '\n') :
    lines (c :: cs) = (c :: (lines cs).headD []) :: (lines cs).tail := by
  rw [lines.eq_def]
  split
  · next empty => cases empty
  · next same => exact absurd (List.cons.inj same).1 notEnd
  · next same =>
      obtain ⟨rfl, rfl⟩ := List.cons.inj same
      exact absurd rfl (notReturn rfl)
  · next c' cs' _ _ same =>
      obtain ⟨rfl, rfl⟩ := List.cons.inj same
      cases lines cs <;> rfl

/-- A line that is written with its end, and perhaps a carriage return before it. -/
def Ends (line content : List Char) : Prop := line = content ∨ line = content ++ ['\r']

/-- A line is read up to its end. -/
theorem exists_lines_append (oneLine : '\n' ∉ line) (rest : List Char) :
    ∃ content, Ends line content ∧ lines (line ++ '\n' :: rest) = content :: lines rest := by
  induction line with
  | nil => exact ⟨[], .inl rfl, rfl⟩
  | cons c line ih =>
      obtain ⟨notEnd, oneLine⟩ : '\n' ≠ c ∧ '\n' ∉ line := by simpa using oneLine
      by_cases last : c = '\r' ∧ line = []
      · obtain ⟨rfl, rfl⟩ := last
        exact ⟨[], .inr rfl, rfl⟩
      · have notReturn : c = '\r' → (line ++ '\n' :: rest).head? ≠ some '\n' := by
          intro isReturn
          obtain ⟨d, more, rfl⟩ := List.exists_cons_of_ne_nil fun none => last ⟨isReturn, none⟩
          have other : d ≠ '\n' := fun same => oneLine (same ▸ List.mem_cons_self)
          simpa using other
        obtain ⟨content, ends, read⟩ := ih oneLine
        refine ⟨c :: content, ends.imp (congrArg (c :: ·)) (congrArg (c :: ·)), ?_⟩
        rw [List.cons_append, lines_cons notEnd.symm notReturn, read]
        rfl

/-- How a text starts is how its first line starts. -/
theorem exists_lines_of_start {start : List Char} (nonempty : start ≠ [])
    (oneLine : '\n' ∉ start) (noReturn : '\r' ∉ start) (rest : List Char) :
    ∃ more ls, lines (start ++ rest) = (start ++ more) :: ls := by
  induction start with
  | nil => exact absurd rfl nonempty
  | cons c start ih =>
      obtain ⟨notEnd, oneLine⟩ : '\n' ≠ c ∧ '\n' ∉ start := by simpa using oneLine
      obtain ⟨notReturn, noReturn⟩ : '\r' ≠ c ∧ '\r' ∉ start := by simpa using noReturn
      have first : lines (c :: (start ++ rest)) =
          (c :: (lines (start ++ rest)).headD []) :: (lines (start ++ rest)).tail :=
        lines_cons notEnd.symm fun same => absurd same.symm notReturn
      by_cases short : start = []
      · subst short
        exact ⟨_, _, first⟩
      · obtain ⟨more, ls, read⟩ := ih short oneLine noReturn
        rw [read] at first
        exact ⟨more, ls, first⟩

end Lines

section Blanks

variable {p : Char → Bool} {before cs after suffix : List Char} {c : Char}

theorem dropWhile_of_head (first : ∀ c ∈ cs.head?, p c = false) : cs.dropWhile p = cs := by
  cases cs with
  | nil => rfl
  | cons c cs => rw [List.dropWhile_cons_of_neg (by simp [first c rfl])]

theorem dropRight_append (dropped : ∀ c ∈ after, p c = true) :
    dropRight p (cs ++ after) = dropRight p cs := by
  rw [dropRight, List.reverse_append,
    List.dropWhile_append_of_pos fun c hc => dropped c (List.mem_reverse.1 hc), dropRight]

/-- What does not begin or end with characters to be dropped stays as it is. -/
theorem strip_append (dropped : ∀ c ∈ before ++ after, p c = true)
    (first : ∀ c ∈ cs.head?, p c = false) (last : ∀ c ∈ cs.getLast?, p c = false) :
    strip p (before ++ cs ++ after) = cs := by
  obtain ⟨front, back⟩ := List.forall_mem_append.1 dropped
  rw [strip, List.append_assoc, List.dropWhile_append_of_pos front]
  cases cs with
  | nil => rw [List.nil_append, List.dropWhile_eq_nil_iff.2 back, dropRight_nil]
  | cons c cs =>
      have kept : ((c :: cs) ++ after).dropWhile p = (c :: cs) ++ after := dropWhile_of_head first
      rw [kept, dropRight_append back, dropRight,
        dropWhile_of_head (by rwa [List.head?_reverse]), List.reverse_reverse]

/-- A character to be dropped at the end makes no difference. -/
theorem strip_concat (dropped : p c = true) : strip p (cs ++ [c]) = strip p cs := by
  have one : ∀ x ∈ [c], p x = true := List.forall_mem_singleton.2 dropped
  rw [strip, strip, List.dropWhile_append]
  split
  · next none => rw [List.isEmpty_iff.1 none, List.dropWhile_eq_nil_iff.2 one]
  · exact dropRight_append one

theorem trim_of_ends {line content : List Char} (h : Ends line content) : trim content = trim line := by
  rcases h with rfl | rfl
  · rfl
  · exact (strip_concat (by decide)).symm

theorem dropSuffixes_go (h : ¬ suffix <:+ cs) (n : Nat) :
    dropSuffixes.go suffix n cs.reverse = cs := by
  have never : suffix.reverse.isPrefixOf? cs.reverse = none := by
    rw [← List.reverse_prefix] at h
    refine Option.eq_none_iff_forall_ne_some.2 fun rest found => h ?_
    exact ⟨rest, List.isPrefixOf?_eq_some_iff_append_eq.1 found⟩
  cases n with
  | zero => rw [dropSuffixes.go, List.reverse_reverse]
  | succ n => rw [dropSuffixes.go, never, List.reverse_reverse]

theorem dropSuffixes_of_not_suffix (h : ¬ suffix <:+ cs) : dropSuffixes suffix cs = cs :=
  dropSuffixes_go h cs.length

theorem dropSuffixes_append (nonempty : suffix ≠ []) (h : ¬ suffix <:+ cs) :
    dropSuffixes suffix (cs ++ suffix) = cs := by
  have once : suffix.reverse.isPrefixOf? (cs ++ suffix).reverse = some cs.reverse :=
    List.isPrefixOf?_eq_some_iff_append_eq.2 List.reverse_append.symm
  have some : cs ++ suffix ≠ [] := List.append_ne_nil_of_right_ne_nil cs nonempty
  obtain ⟨n, long⟩ := Nat.exists_eq_add_one.2 (List.length_pos_of_ne_nil some)
  rw [dropSuffixes, long, dropSuffixes.go, once]
  exact dropSuffixes_go h n

end Blanks

end Text

namespace Compiler

/-! ## Files of arguments -/

section Arguments

variable {cl : Path} {arguments others : List String}

/-- The lines that arguments hold, one after the other. -/
def argumentLines (arguments : List String) : List (List Char) :=
  arguments.flatMap (·.toList.splitOn '\n')

theorem responseText?_msvc :
    (msvc cl).responseText? arguments =
      some (String.ofList (Text.unlines (arguments.map String.toList))) := by
  have spelled : (String.join (arguments.map (· ++ "\n"))).toList =
      Text.unlines (arguments.map String.toList) := by
    rw [String.toList_join, Text.unlines, List.flatMap_map, List.flatMap_map]
    exact List.flatMap_congr fun w _ => String.toList_append
  rw [responseText?, ← spelled, String.ofList_toList]

/-- Two lists of arguments have one file exactly if they hold the same lines. -/
theorem responseText?_msvc_eq_iff :
    (msvc cl).responseText? arguments = (msvc cl).responseText? others ↔
      argumentLines arguments = argumentLines others := by
  rw [responseText?_msvc, responseText?_msvc, Option.some.injEq, String.ofList_inj,
    Text.unlines_eq_iff, List.flatMap_map, List.flatMap_map]
  rfl

/-- Arguments of one line each are the lines that they hold. -/
theorem argumentLines_of_oneLine (oneLine : ∀ w ∈ arguments, '\n' ∉ w.toList) :
    argumentLines arguments = arguments.map String.toList := by
  rw [argumentLines, List.map_eq_flatMap]
  exact List.flatMap_congr fun w hw => List.splitOn_eq_singleton (oneLine w hw)

/-- The lines that arguments hold, each as an argument of its own. -/
def cutAtLines (arguments : List String) : List String := (argumentLines arguments).map String.ofList

theorem of_mem_cutAtLines {w : String} (h : w ∈ cutAtLines arguments) :
    '\n' ∉ w.toList ∧ ∀ c ∈ w.toList, ∃ v ∈ arguments, c ∈ v.toList := by
  obtain ⟨line, hline, rfl⟩ := List.mem_map.1 h
  obtain ⟨v, hv, hline⟩ := List.mem_flatMap.1 hline
  obtain ⟨oneLine, within⟩ := Path.notMem_of_mem_splitOn hline
  rw [String.toList_ofList]
  exact ⟨oneLine, fun c hc => ⟨v, hv, within c hc⟩⟩

theorem argumentLines_cutAtLines : argumentLines (cutAtLines arguments) = argumentLines arguments := by
  rw [argumentLines_of_oneLine fun w hw => (of_mem_cutAtLines hw).1, cutAtLines, List.map_map]
  simp [Function.comp_def]

/-- The file of arguments for cl tells the lines that they hold, and nothing else. So
    the arguments can be told from all others of one line each exactly if they are of one
    line each themselves. -/
theorem recoverable_iff_oneLine (cl : Path) {arguments : List String}
    (noNul : ∀ w ∈ arguments, '\x00' ∉ w.toList) :
    (∀ others, (msvc cl).responseText? arguments = (msvc cl).responseText? others ↔
        argumentLines arguments = argumentLines others) ∧
      ((∀ others : List String, (∀ w ∈ others, '\x00' ∉ w.toList ∧ '\n' ∉ w.toList) →
          (msvc cl).responseText? arguments = (msvc cl).responseText? others → arguments = others) ↔
        ∀ w ∈ arguments, '\n' ∉ w.toList) := by
  refine ⟨fun _ => responseText?_msvc_eq_iff, fun recoverable => ?_,
    fun oneLine others proper same => ?_⟩
  · -- Cut at its lines, every list of arguments keeps its file.
    have noNul' : ∀ w ∈ cutAtLines arguments, '\x00' ∉ w.toList := by
      intro w hw nul
      obtain ⟨v, hv, within⟩ := (of_mem_cutAtLines hw).2 _ nul
      exact noNul v hv within
    have cut : arguments = cutAtLines arguments :=
      recoverable _ (fun w hw => ⟨noNul' w hw, (of_mem_cutAtLines hw).1⟩)
        (responseText?_msvc_eq_iff.2 argumentLines_cutAtLines.symm)
    intro w hw
    rw [cut] at hw
    exact (of_mem_cutAtLines hw).1
  · rw [responseText?_msvc_eq_iff, argumentLines_of_oneLine oneLine,
      argumentLines_of_oneLine fun w hw => (proper w hw).2] at same
    exact List.map_injective_iff.2 (fun _ _ => String.toList_injective) same

/-- Arguments with blanks in them can be recovered. -/
theorem recoverable_iff_oneLine_blanks :
    let arguments := ["/I", "a b/c", ""]
    (∀ w ∈ arguments, '\x00' ∉ w.toList) ∧
      ∀ others : List String, (∀ w ∈ others, '\x00' ∉ w.toList ∧ '\n' ∉ w.toList) →
        (msvc ⟨"cl"⟩).responseText? arguments = (msvc ⟨"cl"⟩).responseText? others →
        arguments = others := by
  intro arguments
  have noNul : ∀ w ∈ arguments, '\x00' ∉ w.toList := by decide
  exact ⟨noNul, (recoverable_iff_oneLine ⟨"cl"⟩ noNul).2.2 (by decide)⟩

/-- An argument of two lines and two arguments of one line each, both from commands of a
    list, have the same file. -/
theorem same_responseText?_of_lineFeed :
    Invocation.ofCommand none { directory := "/p", line := "cl 'a\nb'", output := "o", file := "f" } =
        .ok ⟨["cl"], ["a\nb"]⟩ ∧
      Invocation.ofCommand none { directory := "/p", line := "cl a b", output := "o", file := "f" } =
        .ok ⟨["cl"], ["a", "b"]⟩ ∧
      (∀ w ∈ ["a\nb", "a", "b"], '\x00' ∉ w.toList) ∧ ["a\nb"] ≠ ["a", "b"] ∧
      (msvc ⟨"cl"⟩).responseText? ["a\nb"] = (msvc ⟨"cl"⟩).responseText? ["a", "b"] := by
  decide

end Arguments

/-! ## Reported search directories -/

/-- A line that is neither of the marks around a list. -/
def Unmarked (line : List Char) : Prop := ¬ listStart <+: line ∧ ¬ listEnd <+: line

/-- A directory as a list can tell it. -/
@[mk_iff listable_iff]
structure Listable (entry : List Char) : Prop where
  nonempty : entry ≠ []
  oneLine : '\n' ∉ entry
  first : ∀ c ∈ entry.head?, Text.isBlank c = false
  last : ∀ c ∈ entry.getLast?, Text.isBlank c = false
  unnoted : ¬ frameworkNote <:+ entry

instance : DecidablePred Listable := fun entry =>
  decidable_of_iff
    (entry ≠ [] ∧ '\n' ∉ entry ∧ entry.head?.all (! Text.isBlank ·) ∧
      entry.getLast?.all (! Text.isBlank ·) ∧ ¬ frameworkNote <:+ entry)
    (by simp [listable_iff, Option.all_eq_true])

/-- Blanks on one line. -/
def Blanks (cs : List Char) : Prop := ∀ c ∈ cs, Text.isBlank c = true ∧ c ≠ '\n'

instance : DecidablePred Blanks := fun cs =>
  decidable_of_iff (cs.all fun c => Text.isBlank c && c != '\n') (by simp [Blanks])

theorem Blanks.oneLine {cs : List Char} (h : Blanks cs) : '\n' ∉ cs := fun stop => (h _ stop).2 rfl

theorem Blanks.blank {cs : List Char} (h : Blanks cs) : ∀ c ∈ cs, Text.isBlank c = true :=
  fun c hc => (h c hc).1

/-- A line that shows a directory: it is indented, and a note and blanks may follow. -/
inductive Shows : List Char → Path → Prop where
  | shown {indent entry note space : List Char} : indent ≠ [] → Blanks indent →
      Listable entry → (note = [] ∨ note = frameworkNote) → Blanks space →
      Shows (indent ++ (entry ++ note) ++ space) ⟨String.ofList entry⟩

/-- Lines that show directories in turn, with blank lines between them. -/
inductive Lists : List (List Char) → List Path → Prop where
  | done : Lists [] []
  | blank {line lines directories} : Blanks line → Lists lines directories →
      Lists (line :: lines) directories
  | entry {line lines directory directories} : Shows line directory → Lists lines directories →
      Lists (line :: lines) (directory :: directories)

section Lists

variable {line content entry rest : List Char} {lines : List (List Char)} {directory : Path}
  {directories : List Path} {inList : Bool}

theorem entries_of_unmarked (unmarked : Unmarked line) (lines : List (List Char)) :
    entries inList (line :: lines) =
      (if inList then (listed? line).toList else []) ++ entries inList lines := by
  have notStart : listStart.isPrefixOf line = false := by
    rw [Bool.eq_false_iff, Ne, List.isPrefixOf_iff_prefix]
    exact unmarked.1
  have notEnd : listEnd.isPrefixOf line = false := by
    rw [Bool.eq_false_iff, Ne, List.isPrefixOf_iff_prefix]
    exact unmarked.2
  rw [entries, notStart, notEnd]
  cases inList <;> rfl

theorem Unmarked.of_ends (h : Unmarked line) (ends : Text.Ends line content) : Unmarked content := by
  have within : content <+: line := by
    rcases ends with rfl | rfl
    · exact List.prefix_rfl
    · exact List.prefix_append _ _
  exact ⟨fun start => h.1 (start.trans within), fun stop => h.2 (stop.trans within)⟩

theorem head?_of_start (h : listStart <+: line) : line.head? = some '#' := by
  have start : listStart.head? = some '#' := by decide
  obtain ⟨more, rfl⟩ := h
  rw [List.head?_append, start, Option.some_or]

theorem head?_of_end (h : listEnd <+: line) : line.head? = some 'E' := by
  have stop : listEnd.head? = some 'E' := by decide
  obtain ⟨more, rfl⟩ := h
  rw [List.head?_append, stop, Option.some_or]

/-- No mark begins with a blank. -/
theorem unmarked_of_blank (blank : ∀ c ∈ line.head?, Text.isBlank c = true) : Unmarked line := by
  constructor
  · intro start
    exact absurd (blank '#' (head?_of_start start)) (by decide)
  · intro stop
    exact absurd (blank 'E' (head?_of_end stop)) (by decide)

theorem listed?_of_ends (ends : Text.Ends line content) : listed? content = listed? line := by
  rw [listed?, listed?, Text.trim_of_ends ends]

/-- A line that is no mark counts for what stands on it, whatever follows. -/
theorem entries_append (unmarked : Unmarked line) (oneLine : '\n' ∉ line) (rest : List Char) :
    entries inList (Text.lines (line ++ '\n' :: rest)) =
      (if inList then (listed? line).toList else []) ++ entries inList (Text.lines rest) := by
  obtain ⟨content, ends, read⟩ := Text.exists_lines_append oneLine rest
  rw [read, entries_of_unmarked (unmarked.of_ends ends), listed?_of_ends ends]

theorem entries_before {before : List (List Char)}
    (plain : ∀ line ∈ before, '\n' ∉ line ∧ Unmarked line) (rest : List Char) :
    entries false (Text.lines (Text.unlines before ++ rest)) = entries false (Text.lines rest) := by
  induction before with
  | nil => rfl
  | cons line before ih =>
      obtain ⟨⟨oneLine, unmarked⟩, plain⟩ := List.forall_mem_cons.1 plain
      rw [Text.unlines_cons, List.append_assoc, List.cons_append, entries_append unmarked oneLine,
        ih plain]
      rfl

theorem entries_start (plain : '\n' ∉ line) (rest : List Char) :
    entries inList (Text.lines (listStart ++ line ++ '\n' :: rest)) =
      entries true (Text.lines rest) := by
  have oneLine : '\n' ∉ listStart ++ line := List.not_mem_append (by decide) plain
  obtain ⟨content, ends, read⟩ := Text.exists_lines_append oneLine rest
  have start : listStart <+: content := by
    rcases ends with same | same
    · exact ⟨line, same⟩
    · have begun : listStart <+: content ++ ['\r'] := ⟨line, same⟩
      rcases List.prefix_concat_iff.1 begun with whole | start
      · have last := congrArg List.getLast? whole
        rw [List.getLast?_concat] at last
        exact absurd last (by decide)
      · exact start
  rw [read, entries, if_pos (List.isPrefixOf_iff_prefix.2 start)]

theorem entries_end (rest : List Char) : entries inList (Text.lines (listEnd ++ rest)) = [] := by
  have nonempty : listEnd ≠ [] := by decide
  obtain ⟨more, lines, read⟩ :=
    Text.exists_lines_of_start nonempty (by decide) (by decide) rest
  have stop : listEnd <+: listEnd ++ more := List.prefix_append _ _
  have notStart : ¬ listStart <+: listEnd ++ more := by
    intro start
    have both := (head?_of_start start).symm.trans (head?_of_end stop)
    exact absurd both (by decide)
  rw [read, entries, if_neg (by rwa [List.isPrefixOf_iff_prefix]),
    if_pos (List.isPrefixOf_iff_prefix.2 stop)]

/-! ### What is shown -/

theorem listed?_of_blank (blank : ∀ c ∈ line, Text.isBlank c = true) : listed? line = none := by
  have nothing : Text.trim line = [] := by
    have all : Text.strip Text.isBlank (line ++ [] ++ []) = [] :=
      Text.strip_append (by simpa using blank) (by simp) (by simp)
    rwa [List.append_nil, List.append_nil] at all
  rw [listed?, nothing]
  rfl

theorem dropNote (listable : Listable entry) {note : List Char}
    (noted : note = [] ∨ note = frameworkNote) :
    Text.dropSuffixes frameworkNote (entry ++ note) = entry := by
  rcases noted with rfl | rfl
  · rw [List.append_nil, Text.dropSuffixes_of_not_suffix listable.unnoted]
  · exact Text.dropSuffixes_append (by decide) listable.unnoted

theorem listed?_of_shows (h : Shows line directory) : listed? line = some directory := by
  cases h with | @shown indent entry note space _ before listable noted after => ?_
  have first : ∀ c ∈ (entry ++ note).head?, Text.isBlank c = false := by
    rw [List.head?_append_of_ne_nil _ listable.nonempty]
    exact listable.first
  have last : ∀ c ∈ (entry ++ note).getLast?, Text.isBlank c = false := by
    rcases noted with rfl | rfl
    · rw [List.append_nil]
      exact listable.last
    · have final : frameworkNote.getLast? = some ')' := by decide
      have counted : Text.isBlank ')' = false := by decide
      rw [List.getLast?_append, final, Option.some_or]
      simpa using counted
  have trimmed : Text.trim (indent ++ (entry ++ note) ++ space) = entry ++ note :=
    Text.strip_append (List.forall_mem_append.2 ⟨before.blank, after.blank⟩) first last
  obtain ⟨c, cs, rfl⟩ := List.exists_cons_of_ne_nil listable.nonempty
  rw [listed?, trimmed, dropNote listable noted]

theorem Shows.unmarked (h : Shows line directory) : Unmarked line := by
  cases h with | shown some before _ _ _ => ?_
  refine unmarked_of_blank ?_
  rw [List.append_assoc, List.head?_append_of_ne_nil _ some]
  exact fun c hc => before.blank c (List.mem_of_mem_head? hc)

theorem Shows.oneLine (h : Shows line directory) : '\n' ∉ line := by
  cases h with | @shown indent entry note space _ before listable noted after => ?_
  have noteLine : '\n' ∉ note := by
    rcases noted with rfl | rfl <;> decide
  have shown : '\n' ∉ entry ++ note := List.not_mem_append listable.oneLine noteLine
  exact List.not_mem_append (List.not_mem_append before.oneLine shown) after.oneLine

theorem entries_of_lists (h : Lists lines directories) (rest : List Char) :
    entries true (Text.lines (Text.unlines lines ++ rest)) =
      directories ++ entries true (Text.lines rest) := by
  induction h with
  | done => rfl
  | @blank line lines directories blanks _ ih =>
      have unmarked : Unmarked line :=
        unmarked_of_blank fun c hc => blanks.blank c (List.mem_of_mem_head? hc)
      rw [Text.unlines_cons, List.append_assoc, List.cons_append,
        entries_append unmarked blanks.oneLine, ih, listed?_of_blank blanks.blank]
      rfl
  | @entry line lines directory directories shows _ ih =>
      rw [Text.unlines_cons, List.append_assoc, List.cons_append,
        entries_append shows.unmarked shows.oneLine, ih, listed?_of_shows shows]
      rfl

/-- A report lists the directories that are shown between its marks, in their order. -/
theorem searchList_report {before lines : List (List Char)} {note epilogue : List Char}
    {directories : List Path}
    (plain : ∀ line ∈ before, '\n' ∉ line ∧ ¬ listStart <+: line ∧ ¬ listEnd <+: line)
    (oneLine : '\n' ∉ note) (lists : Lists lines directories) :
    searchList (String.ofList (Text.unlines before ++ (listStart ++ note ++ '\n' ::
      (Text.unlines lines ++ (listEnd ++ epilogue))))) = directories := by
  rw [searchList, String.toList_ofList, entries_before plain, entries_start oneLine,
    entries_of_lists lists, entries_end, List.append_nil]

/-- A report with carriage returns, a blank line, a note and the marks once more behind
    its list. -/
theorem searchList_report_spaced :
    let before := ["clang version 17\r".toList, " /usr/local/include\r".toList]
    let lines := [" ".toList ++ ("/usr/include".toList ++ []) ++ "\r".toList, "\t\r".toList,
      "  ".toList ++ ("/Library/Frameworks".toList ++ frameworkNote) ++ [] ]
    let epilogue := "\n".toList ++ listStart ++ "\n /opt\n".toList ++ listEnd
    let directories : List Path := [⟨"/usr/include"⟩, ⟨"/Library/Frameworks"⟩]
    (∀ line ∈ before, '\n' ∉ line ∧ ¬ listStart <+: line ∧ ¬ listEnd <+: line) ∧
      Lists lines directories ∧
      searchList (String.ofList (Text.unlines before ++ (listStart ++ "\r".toList ++ '\n' ::
        (Text.unlines lines ++ (listEnd ++ epilogue))))) = directories := by
  intro before lines epilogue directories
  have plain : ∀ line ∈ before, '\n' ∉ line ∧ ¬ listStart <+: line ∧ ¬ listEnd <+: line := by
    decide
  have indents : Blanks " ".toList ∧ Blanks "  ".toList := by decide
  have entries : Listable "/usr/include".toList ∧ Listable "/Library/Frameworks".toList := by
    decide
  have spaces : Blanks "\r".toList ∧ Blanks [] := by decide
  have first : Shows (" ".toList ++ ("/usr/include".toList ++ []) ++ "\r".toList) ⟨"/usr/include"⟩ := by
    have shows := Shows.shown (by decide) indents.1 entries.1 (.inl rfl) spaces.1
    rwa [String.ofList_toList] at shows
  have second : Shows ("  ".toList ++ ("/Library/Frameworks".toList ++ frameworkNote) ++ [])
      ⟨"/Library/Frameworks"⟩ := by
    have shows := Shows.shown (by decide) indents.2 entries.2 (.inr rfl) spaces.2
    rwa [String.ofList_toList] at shows
  have lists : Lists lines directories :=
    .entry first (.blank (by decide) (.entry second .done))
  exact ⟨plain, lists, searchList_report plain (by decide) lists⟩

end Lists

end Compiler

end CompileTree
