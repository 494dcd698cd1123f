import CompileTree.Proofs.SuffixIndex.Entries

/-! # What a query finds

A query finds every stored name that ends with the components of the query. The
answers are the marks and directories before that ending; they depend only on
which names were stored with which marks, not on when or how often.
-/

namespace CompileTree.SuffixIndex

/-- The components of a name: what stands between separators, without the empty
    pieces before the last one. -/
def components (text : String) : List String :=
  let pieces := text.toList.splitOn '/'
  (pieces.dropLast.filter (· ≠ []) ++ pieces.getLast?.toList).map String.ofList

/-- The components a name has to end with; the empty query asks for none. -/
def asked (query : String) : List String := if query = "" then [] else components query

/-- The index after storing names with their marks in turn. -/
def ofNames (stored : List (String × String)) : SuffixIndex :=
  stored.foldl (fun index e => index.insert e.1 e.2) .empty

theorem segments_eq_components (text : String) : segments text = (components text).reverse := by
  rw [segments, components]
  cases h : (text.toList.splitOn '/').reverse with
  | nil =>
      rw [List.reverse_eq_nil_iff] at h
      simp [h]
  | cons last rest =>
      have split : text.toList.splitOn '/' = rest.reverse ++ [last] := by
        rw [← List.reverse_reverse (text.toList.splitOn '/'), h, List.reverse_cons]
      simp [split]

/-! ## Storing -/

section Storing

variable {index : SuffixIndex} {stored : List (String × String)}

theorem mem_entries_insert {file mark : String} {e : Entry} :
    e ∈ (index.insert file mark).entries ↔
      (e.pieces.reverse = components file ∧ e.mark = mark) ∨ e ∈ index.entries := by
  have reversed : e.pieces.reverse = components file ↔ e.pieces = segments file := by
    rw [segments_eq_components, List.reverse_eq_iff]
  rw [insert, reversed]
  split
  · next h => exact absurd h (segments_ne_nil file)
  · next name names h =>
      cases e
      rw [mem_entries_insertSegments, h, Entry.mk.injEq]

theorem Ordered.insert {file mark : String} (h : index.Ordered) : (index.insert file mark).Ordered := by
  rw [SuffixIndex.insert]
  split
  · exact h
  · exact h.insertSegments

/-- Storing names one after the other adds an entry for each of them. -/
theorem mem_entries_foldl {e : Entry} :
    e ∈ (stored.foldl (fun index e => index.insert e.1 e.2) index).entries ↔
      (∃ file, (file, e.mark) ∈ stored ∧ components file = e.pieces.reverse) ∨ e ∈ index.entries := by
  induction stored generalizing index with
  | nil => simp
  | cons named rest ih =>
      obtain ⟨file, mark⟩ := named
      rw [List.foldl_cons, ih, mem_entries_insert]
      grind

theorem ordered_foldl (h : index.Ordered) :
    (stored.foldl (fun index e => index.insert e.1 e.2) index).Ordered := by
  induction stored generalizing index with
  | nil => exact h
  | cons named rest ih => exact ih h.insert

theorem mem_entries_ofNames {e : Entry} :
    e ∈ (ofNames stored).entries ↔
      ∃ file, (file, e.mark) ∈ stored ∧ components file = e.pieces.reverse := by
  rw [ofNames, mem_entries_foldl]
  simp [entries]

theorem ordered_ofNames (stored : List (String × String)) : (ofNames stored).Ordered :=
  ordered_foldl trivial

end Storing

/-! ## Walking down -/

section Walking

variable {index : SuffixIndex} {name : String} {names : List String}

theorem find?_eq_some {marks : List String} {inner : SuffixIndex} (h : index.Ordered)
    (found : index.find? name = some (marks, inner)) :
    marks.Pairwise (· < ·) ∧ inner.Ordered ∧
      ∀ e : Entry, e.under name ∈ index.entries ↔ e ∈ nodeEntries marks inner := by
  induction index with
  | empty => simp [find?] at found
  | node n ms inn next ihInner ihNext =>
      obtain ⟨hMarks, hInner, hNext, hAfter⟩ := h
      rw [find?] at found
      split at found
      · next same =>
          cases found
          subst same
          refine ⟨hMarks, hInner, fun e => ?_⟩
          have elsewhere : e.under n ∉ next.entries := by
            intro he
            obtain ⟨m, hm, f, hf⟩ := under_of_mem_entries he
            obtain rfl : n = m := by simpa [Entry.under] using congrArg (·.pieces.head?) hf
            exact String.lt_irrefl n (hAfter n hm)
          rw [entries_node, List.mem_append, List.mem_map_of_injective (Entry.under_injective n)]
          simp [elsewhere]
      · next different =>
          obtain ⟨hm, hi, hmem⟩ := ihNext hNext found
          refine ⟨hm, hi, fun e => ?_⟩
          rw [← hmem, entries_node, List.mem_append, List.mem_map]
          constructor
          · rintro (⟨f, -, hf⟩ | he)
            · exact absurd (by simpa [Entry.under] using congrArg (·.pieces.head?) hf) different
            · exact he
          · exact .inr

theorem under_notMem_of_find?_eq_none (found : index.find? name = none) (e : Entry) :
    e.under name ∉ index.entries := by
  induction index with
  | empty => simp [entries]
  | node n marks inner next ihInner ihNext =>
      rw [find?] at found
      split at found
      · cases found
      · next different =>
          rw [entries_node, List.mem_append, List.mem_map]
          rintro (⟨f, -, hf⟩ | he)
          · exact different (by simpa [Entry.under] using congrArg (·.pieces.head?) hf)
          · exact ihNext found he

/-- Walking down along some pieces finds the entries that continue them, in order. -/
theorem chainsBefore_eq (h : index.Ordered) (name : String) (names : List String) :
    ∃ answers : List Entry, index.chainsBefore name names = answers.map Entry.chain ∧
      answers.Pairwise Entry.Before ∧
      ∀ e : Entry, e ∈ answers ↔ ⟨name :: names ++ e.pieces, e.mark⟩ ∈ index.entries := by
  induction names generalizing index name with
  | nil =>
      rw [chainsBefore]
      cases found : index.find? name with
      | none =>
          refine ⟨[], rfl, .nil, fun e => ?_⟩
          simpa [Entry.under] using under_notMem_of_find?_eq_none found e
      | some place =>
          obtain ⟨marks, inner⟩ := place
          obtain ⟨hMarks, hInner, hmem⟩ := find?_eq_some h found
          refine ⟨nodeEntries marks inner, ?_, pairwise_nodeEntries hMarks hInner.pairwise_entries,
            fun e => (hmem e).symm⟩
          rw [map_chain_nodeEntries, ← chains_eq_entries]
  | cons n ns ih =>
      rw [chainsBefore]
      cases found : index.find? name with
      | none =>
          refine ⟨[], rfl, .nil, fun e => ?_⟩
          simpa [Entry.under] using under_notMem_of_find?_eq_none found ⟨n :: ns ++ e.pieces, e.mark⟩
      | some place =>
          obtain ⟨marks, inner⟩ := place
          obtain ⟨hMarks, hInner, hmem⟩ := find?_eq_some h found
          obtain ⟨answers, hchains, hordered, hanswers⟩ := ih hInner n
          refine ⟨answers, hchains, hordered, fun e => ?_⟩
          have continued := hmem ⟨n :: ns ++ e.pieces, e.mark⟩
          rw [mem_nodeEntries] at continued
          rw [hanswers]
          simpa [Entry.under] using continued.symm

end Walking

/-- What a query that touches no edge finds: the entries that end as asked. -/
theorem lookup_eq_map {index : SuffixIndex} {query : String} (h : index.Ordered)
    (inside : query.toList.head? ≠ some '/' ∧ query.toList.getLast? ≠ some '/') :
    ∃ answers : List Entry, index.lookup query = answers.map Entry.chain ∧
      answers.Pairwise Entry.Before ∧
      ∀ e : Entry, e ∈ answers ↔ ⟨(asked query).reverse ++ e.pieces, e.mark⟩ ∈ index.entries := by
  rw [lookup, asked]
  by_cases blank : query = ""
  · rw [if_pos blank, if_pos blank]
    exact ⟨index.entries, chains_eq_entries index, h.pairwise_entries, fun e => Iff.rfl⟩
  · have noEdge : (query.toList.head? == some '/' || query.toList.getLast? == some '/') = false := by
      simpa using inside
    rw [if_neg blank, if_neg blank, noEdge, if_neg Bool.false_ne_true, ← segments_eq_components]
    cases pieces : segments query with
    | nil => exact absurd pieces (segments_ne_nil query)
    | cons name names => exact chainsBefore_eq h name names

theorem lookup_touching {index : SuffixIndex} {query : String} (nonempty : query ≠ "")
    (touching : query.toList.head? = some '/' ∨ query.toList.getLast? = some '/') :
    index.lookup query = [] := by
  have edge : (query.toList.head? == some '/' || query.toList.getLast? == some '/') = true := by
    simpa using touching
  rw [lookup, if_neg nonempty, if_pos edge]

/-- Ordered indexes with the same entries give the same answers. -/
theorem Ordered.lookup_congr {index index' : SuffixIndex} (h : index.Ordered) (h' : index'.Ordered)
    (same : ∀ e, e ∈ index.entries ↔ e ∈ index'.entries) (query : String) :
    index.lookup query = index'.lookup query := by
  by_cases touching : query ≠ "" ∧ (query.toList.head? = some '/' ∨ query.toList.getLast? = some '/')
  · rw [lookup_touching touching.1 touching.2, lookup_touching touching.1 touching.2]
  · have inside : query.toList.head? ≠ some '/' ∧ query.toList.getLast? ≠ some '/' := by
      by_cases blank : query = ""
      · simp [blank]
      · grind
    obtain ⟨answers, hchains, hordered, hanswers⟩ := lookup_eq_map h inside
    obtain ⟨answers', hchains', hordered', hanswers'⟩ := lookup_eq_map h' inside
    have equal : answers = answers' :=
      hordered.eq_of_mem_iff hordered' fun e => by rw [hanswers, hanswers', same]
    rw [hchains, hchains', equal]

@[simp] theorem lookup_empty (query : String) : empty.lookup query = [] := by
  rw [lookup]
  split
  · rfl
  · split
    · rfl
    · split
      · rfl
      · next name names _ => cases names <;> rfl

@[simp] theorem directories_empty (name : String) : empty.directories name = [] := by
  rw [directories, lookup_empty, List.map_nil]

theorem directories_blank (index : SuffixIndex) : index.directories "" = index.chains.map Path.ofChain := by
  rw [directories, lookup, if_pos rfl]

/-- What a query finds among stored names. -/
theorem lookup_ofNames_eq_map (stored : List (String × String)) {query : String}
    (inside : query.toList.head? ≠ some '/' ∧ query.toList.getLast? ≠ some '/') :
    ∃ answers : List Entry, (ofNames stored).lookup query = answers.map Entry.chain ∧
      answers.Pairwise Entry.Before ∧
      ∀ directories mark, ⟨directories.reverse, mark⟩ ∈ answers ↔
        ∃ file, (file, mark) ∈ stored ∧ components file = directories ++ asked query := by
  obtain ⟨answers, hchains, hordered, hanswers⟩ :=
    lookup_eq_map (ordered_ofNames stored) inside
  refine ⟨answers, hchains, hordered, fun directories mark => ?_⟩
  rw [hanswers, mem_entries_ofNames]
  simp

/-- A query finds one chain for every way to complete it to a stored name: the
    mark, then the directories before the components asked for. The chains come
    ordered by their directories from the innermost on, then by their marks, and
    no order or repetition of what was stored shows in them. -/
theorem lookup_ofNames (stored : List (String × String)) (query : String) :
    (if query ≠ "" ∧ (query.toList.head? = some '/' ∨ query.toList.getLast? = some '/') then
      (ofNames stored).lookup query = []
    else
      ∃ answers : List Entry, (ofNames stored).lookup query = answers.map Entry.chain ∧
        answers.Pairwise Entry.Before ∧
        ∀ directories mark, ⟨directories.reverse, mark⟩ ∈ answers ↔
          ∃ file, (file, mark) ∈ stored ∧ components file = directories ++ asked query) ∧
    ∀ stored', (∀ e, e ∈ stored' ↔ e ∈ stored) →
      (ofNames stored').lookup query = (ofNames stored).lookup query := by
  by_cases touching : query ≠ "" ∧ (query.toList.head? = some '/' ∨ query.toList.getLast? = some '/')
  · rw [if_pos touching]
    refine ⟨lookup_touching touching.1 touching.2, fun stored' _ => ?_⟩
    rw [lookup_touching touching.1 touching.2, lookup_touching touching.1 touching.2]
  · have inside : query.toList.head? ≠ some '/' ∧ query.toList.getLast? ≠ some '/' := by
      by_cases blank : query = ""
      · simp [blank]
      · grind
    rw [if_neg touching]
    refine ⟨lookup_ofNames_eq_map stored inside, fun stored' same => ?_⟩
    obtain ⟨answers, hchains, hordered, hanswers⟩ := lookup_ofNames_eq_map stored inside
    obtain ⟨answers', hchains', hordered', hanswers'⟩ :=
      lookup_ofNames_eq_map stored' inside
    have equal : answers' = answers := by
      refine hordered'.eq_of_mem_iff hordered fun e => ?_
      have h := hanswers e.pieces.reverse e.mark
      have h' := hanswers' e.pieces.reverse e.mark
      rw [List.reverse_reverse] at h h'
      rw [h, h']
      simp only [same]
    rw [hchains, hchains', equal]

example : (ofNames [("a/x/c.h", "R"), ("/b//c.h", "R"), ("c.h", "Q"), ("a/x/c.h", "R")]).lookup "c.h" =
    [["Q"], ["R", "b"], ["R", "a", "x"]] := by
  decide

end CompileTree.SuffixIndex
