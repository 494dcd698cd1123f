import CompileTree.Text.NameSet
import CompileTree.SuffixIndex
import Mathlib.Data.List.Sort
import Mathlib.Data.String.Basic

/-! # What an index holds

An index is read as the list of its entries, each a name cut into pieces with the
mark of its tree. An ordered index lists its entries in order and without
repetition; insertion keeps the order and adds exactly one entry.
-/

namespace CompileTree.SuffixIndex

/-- Some pieces of a name, the last one first, and a mark. -/
structure Entry where
  pieces : List String
  mark : String
  deriving DecidableEq, Repr

namespace Entry

/-- The entry with one more piece behind those it has. -/
def under (name : String) (e : Entry) : Entry := ⟨name :: e.pieces, e.mark⟩

/-- The mark and the pieces from the outermost on. -/
def chain (e : Entry) : Chain := e.mark :: e.pieces.reverse

/-- Entries are ordered by their pieces from the last one on, then by their marks. -/
def Before (e f : Entry) : Prop :=
  e.pieces < f.pieces ∨ e.pieces = f.pieces ∧ e.mark < f.mark

theorem Before.under {e f : Entry} (h : e.Before f) (name : String) :
    (e.under name).Before (f.under name) := by
  rcases h with hlt | ⟨heq, hmark⟩
  · exact .inl (List.cons_lt_cons_iff.2 (.inr ⟨rfl, hlt⟩))
  · exact .inr ⟨congrArg (name :: ·) heq, hmark⟩

theorem under_before_under {e f : Entry} {m n : String} (h : m < n) :
    (e.under m).Before (f.under n) :=
  .inl (List.cons_lt_cons_iff.2 (.inl h))

theorem under_injective (name : String) : (under name).Injective := by
  intro e f h
  cases e
  cases f
  simpa [under] using h

@[simp] theorem chain_under (name : String) (e : Entry) : (e.under name).chain = e.chain ++ [name] := by
  simp [chain, under]

instance : Std.Irrefl Before where
  irrefl e h := by
    rcases h with h | ⟨-, h⟩
    · exact List.lt_irrefl _ h
    · exact String.lt_irrefl _ h

instance : Std.Antisymm Before where
  antisymm e f h h' := by
    exfalso
    rcases h with h | ⟨heq, h⟩ <;> rcases h' with h' | ⟨heq', h'⟩
    · exact lt_asymm h h'
    · exact List.lt_irrefl _ (heq' ▸ h)
    · exact List.lt_irrefl _ (heq ▸ h')
    · exact lt_asymm h h'

end Entry

/-- The entries of an index, in the order of its chains. -/
def entries : SuffixIndex → List Entry
  | .empty => []
  | .node name marks inner next =>
      (marks.map (Entry.mk []) ++ inner.entries).map (Entry.under name) ++ next.entries

/-- The last pieces under which an index holds something. -/
def siblings : SuffixIndex → List String
  | .empty => []
  | .node name _ _ next => name :: next.siblings

/-- Siblings and marks stand in increasing order. -/
def Ordered : SuffixIndex → Prop
  | .empty => True
  | .node name marks inner next =>
      marks.Pairwise (· < ·) ∧ inner.Ordered ∧ next.Ordered ∧ ∀ n ∈ next.siblings, name < n

/-- What stands at a node: its marks, then the entries inside. -/
def nodeEntries (marks : List String) (inner : SuffixIndex) : List Entry :=
  marks.map (Entry.mk []) ++ inner.entries

theorem entries_node {name : String} {marks : List String} {inner next : SuffixIndex} :
    (node name marks inner next).entries =
      (nodeEntries marks inner).map (Entry.under name) ++ next.entries := rfl

theorem mem_nodeEntries {marks : List String} {inner : SuffixIndex} {e : Entry} :
    e ∈ nodeEntries marks inner ↔ (e.pieces = [] ∧ e.mark ∈ marks) ∨ e ∈ inner.entries := by
  cases e
  simp [nodeEntries]
  grind

theorem map_chain_nodeEntries {marks : List String} {inner : SuffixIndex} :
    (nodeEntries marks inner).map Entry.chain = marks.map ([·]) ++ inner.entries.map Entry.chain := by
  simp [nodeEntries, Entry.chain]

/-- The chains are what the entries spell. -/
theorem chains_eq_entries (index : SuffixIndex) : index.chains = index.entries.map Entry.chain := by
  induction index with
  | empty => rfl
  | node name marks inner next ihInner ihNext =>
      have spelledUnder : (· ++ [name]) ∘ Entry.chain = Entry.chain ∘ Entry.under name := by
        funext e
        simp
      calc
        (node name marks inner next).chains
            = ((nodeEntries marks inner).map Entry.chain).map (· ++ [name]) ++
                next.entries.map Entry.chain := by
              rw [chains, ihInner, ihNext, map_chain_nodeEntries]
        _ = ((nodeEntries marks inner).map (Entry.under name)).map Entry.chain ++
                next.entries.map Entry.chain := by
              rw [List.map_map, spelledUnder, ← List.map_map]
        _ = (node name marks inner next).entries.map Entry.chain := by
              rw [entries_node, List.map_append]

theorem under_of_mem_entries {index : SuffixIndex} {e : Entry} (h : e ∈ index.entries) :
    ∃ name ∈ index.siblings, ∃ f : Entry, e = f.under name := by
  induction index generalizing e with
  | empty => simp [entries] at h
  | node name marks inner next ihInner ihNext =>
      rw [entries, List.mem_append, List.mem_map] at h
      rcases h with ⟨f, -, rfl⟩ | h
      · exact ⟨name, List.mem_cons_self, f, rfl⟩
      · obtain ⟨n, hn, f, rfl⟩ := ihNext h
        exact ⟨n, List.mem_cons_of_mem _ hn, f, rfl⟩

theorem pairwise_nodeEntries {marks : List String} {inner : SuffixIndex}
    (hMarks : marks.Pairwise (· < ·)) (hInner : inner.entries.Pairwise Entry.Before) :
    (nodeEntries marks inner).Pairwise Entry.Before := by
  refine List.pairwise_append.2 ⟨?_, hInner, ?_⟩
  · exact List.pairwise_map.2 (hMarks.imp fun hlt => .inr ⟨rfl, hlt⟩)
  · intro e he f hf
    obtain ⟨mark, -, rfl⟩ := List.mem_map.1 he
    obtain ⟨name, -, g, rfl⟩ := under_of_mem_entries hf
    exact .inl (List.nil_lt_cons name g.pieces)

theorem Ordered.pairwise_entries {index : SuffixIndex} (h : index.Ordered) :
    index.entries.Pairwise Entry.Before := by
  induction index with
  | empty => exact .nil
  | node name marks inner next ihInner ihNext =>
      obtain ⟨hMarks, hInner, hNext, hAfter⟩ := h
      refine List.pairwise_append.2 ⟨?_, ihNext hNext, ?_⟩
      · exact List.pairwise_map.2 ((pairwise_nodeEntries hMarks (ihInner hInner)).imp fun hlt => hlt.under name)
      · intro e he f hf
        obtain ⟨e, -, rfl⟩ := List.mem_map.1 he
        obtain ⟨n, hn, f, rfl⟩ := under_of_mem_entries hf
        exact Entry.under_before_under (hAfter n hn)

/-! ## Insertion -/

section Insert

variable {mark name : String} {names : List String}

theorem entries_single (mark name : String) (names : List String) :
    (single mark name names).entries = [⟨name :: names, mark⟩] := by
  induction names generalizing name with
  | nil => rfl
  | cons n ns ih => simp [single, entries, ih, Entry.under]

theorem siblings_single : (single mark name names).siblings = [name] := by
  cases names <;> rfl

theorem ordered_single (mark name : String) (names : List String) :
    (single mark name names).Ordered := by
  induction names generalizing name with
  | nil => simp [single, Ordered, siblings]
  | cons n ns ih => simp [single, Ordered, siblings, ih]

/-- A name smaller than all siblings starts a node of its own in front of them. -/
theorem insertSegments_lt (mark : String) (names : List String) {n : String} (marks : List String)
    (inner next : SuffixIndex) (h : compare name n = .lt) :
    ∃ marks' inner', single mark name names = .node name marks' inner' .empty ∧
      insertSegments mark (.node n marks inner next) name names =
        .node name marks' inner' (.node n marks inner next) := by
  cases names with
  | nil => exact ⟨[mark], .empty, rfl, by simp [insertSegments, h, single]⟩
  | cons m ms => exact ⟨[], single mark m ms, rfl, by simp [insertSegments, h, single]⟩

theorem mem_siblings_insertSegments {index : SuffixIndex} {n : String} :
    n ∈ (insertSegments mark index name names).siblings ↔ n = name ∨ n ∈ index.siblings := by
  induction index generalizing n with
  | empty => simp [insertSegments, siblings_single, siblings]
  | node m marks inner next ihInner ihNext =>
      cases hcmp : compare name m with
      | lt =>
          obtain ⟨marks', inner', -, hins⟩ := insertSegments_lt mark names marks inner next hcmp
          simp [hins, siblings]
      | eq =>
          have same : name = m := Std.LawfulEqOrd.compare_eq_iff_eq.1 hcmp
          cases names <;> simp [insertSegments, siblings, same]
      | gt =>
          simp only [insertSegments, hcmp, siblings, List.mem_cons, ihNext]
          grind

/-- Insertion adds one entry. -/
theorem mem_entries_insertSegments {index : SuffixIndex} {e : Entry} :
    e ∈ (insertSegments mark index name names).entries ↔
      e = ⟨name :: names, mark⟩ ∨ e ∈ index.entries := by
  induction index generalizing name names e with
  | empty => simp [insertSegments, entries_single, entries]
  | node m marks inner next ihInner ihNext =>
      cases hcmp : compare name m with
      | lt =>
          obtain ⟨marks', inner', hsingle, hins⟩ := insertSegments_lt mark names marks inner next hcmp
          have alone := entries_single mark name names
          rw [hsingle, entries, entries, List.append_nil] at alone
          rw [hins, entries, alone]
          simp
      | eq =>
          obtain rfl : name = m := Std.LawfulEqOrd.compare_eq_iff_eq.1 hcmp
          cases names with
          | nil =>
              simp only [insertSegments, hcmp, entries, List.mem_append, List.mem_map,
                Text.mem_insertName]
              grind [Entry.under]
          | cons n ns =>
              simp only [insertSegments, hcmp, entries, List.mem_append, List.mem_map, ihInner]
              grind [Entry.under]
      | gt =>
          simp only [insertSegments, hcmp, entries, List.mem_append, ihNext]
          grind

theorem Ordered.insertSegments {index : SuffixIndex} (h : index.Ordered) :
    (insertSegments mark index name names).Ordered := by
  induction index generalizing name names with
  | empty => exact ordered_single mark name names
  | node m marks inner next ihInner ihNext =>
      obtain ⟨hMarks, hInner, hNext, hAfter⟩ := h
      cases hcmp : compare name m with
      | lt =>
          obtain ⟨marks', inner', hsingle, hins⟩ := insertSegments_lt mark names marks inner next hcmp
          have alone := ordered_single mark name names
          rw [hsingle] at alone
          have hlt : name < m := compare_lt_iff_lt.1 hcmp
          rw [hins]
          refine ⟨alone.1, alone.2.1, ⟨hMarks, hInner, hNext, hAfter⟩, fun n hn => ?_⟩
          rcases List.mem_cons.1 hn with rfl | hn
          · exact hlt
          · exact String.lt_trans hlt (hAfter n hn)
      | eq =>
          cases names with
          | nil =>
              simp only [SuffixIndex.insertSegments, hcmp]
              exact ⟨Text.pairwise_insertName hMarks, hInner, hNext, hAfter⟩
          | cons n ns =>
              simp only [SuffixIndex.insertSegments, hcmp]
              exact ⟨hMarks, ihInner hInner, hNext, hAfter⟩
      | gt =>
          simp only [SuffixIndex.insertSegments, hcmp]
          refine ⟨hMarks, hInner, ihNext hNext, fun n hn => ?_⟩
          rcases mem_siblings_insertSegments.1 hn with rfl | hn
          · exact compare_gt_iff_gt.1 hcmp
          · exact hAfter n hn

end Insert

end CompileTree.SuffixIndex
