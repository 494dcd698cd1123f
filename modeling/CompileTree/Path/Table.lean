import CompileTree.Path

/-! # Tables keyed by paths

A table holds at most one value for every place and lists its entries in path
order. Each entry keeps the spelling of its path that was inserted first.
-/

namespace CompileTree.Path

/-- Entries in strictly increasing path order. -/
structure Table (α : Type) where
  entries : List (Path × α)
  sorted : entries.Pairwise fun a b => compare a.1 b.1 = .lt

namespace Table

variable {α : Type}

/-- No entries. -/
def empty : Table α := ⟨[], .nil⟩

instance : Inhabited (Table α) := ⟨empty⟩

/-- Put a value at its place among sorted entries. -/
def insertEntry (p : Path) (v : α) : List (Path × α) → List (Path × α)
  | [] => [(p, v)]
  | (q, w) :: rest =>
    match compare p q with
    | .lt => (p, v) :: (q, w) :: rest
    | .eq => (q, v) :: rest
    | .gt => (q, w) :: insertEntry p v rest

theorem insertEntry_nil (p : Path) (v : α) : insertEntry p v [] = [(p, v)] := rfl

theorem insertEntry_cons (p q : Path) (v w : α) (rest : List (Path × α)) :
    insertEntry p v ((q, w) :: rest) =
      match compare p q with
      | .lt => (p, v) :: (q, w) :: rest
      | .eq => (q, v) :: rest
      | .gt => (q, w) :: insertEntry p v rest := rfl

theorem mem_insertEntry {p : Path} {v : α} {entries : List (Path × α)} {e : Path × α}
    (h : e ∈ insertEntry p v entries) : e.1 = p ∨ ∃ f ∈ entries, f.1 = e.1 := by
  induction entries with
  | nil =>
    rw [insertEntry_nil, List.mem_singleton] at h
    exact .inl (h ▸ rfl)
  | cons f rest ih =>
    obtain ⟨q, w⟩ := f
    rw [insertEntry_cons] at h
    split at h
    · rcases List.mem_cons.1 h with rfl | h
      · exact .inl rfl
      · exact .inr ⟨e, h, rfl⟩
    · rcases List.mem_cons.1 h with rfl | h
      · exact .inr ⟨(q, w), List.mem_cons_self, rfl⟩
      · exact .inr ⟨e, List.mem_cons_of_mem _ h, rfl⟩
    · rcases List.mem_cons.1 h with rfl | h
      · exact .inr ⟨(q, w), List.mem_cons_self, rfl⟩
      · rcases ih h with h | ⟨f, hf, he⟩
        · exact .inl h
        · exact .inr ⟨f, List.mem_cons_of_mem _ hf, he⟩

theorem sorted_insertEntry (p : Path) (v : α) {entries : List (Path × α)}
    (h : entries.Pairwise fun a b => compare a.1 b.1 = .lt) :
    (insertEntry p v entries).Pairwise fun a b => compare a.1 b.1 = .lt := by
  induction entries with
  | nil => exact List.pairwise_singleton ..
  | cons f rest ih =>
    obtain ⟨q, w⟩ := f
    have hq := (List.pairwise_cons.1 h).1
    have hr := (List.pairwise_cons.1 h).2
    rw [insertEntry_cons]
    split
    · next hlt =>
      refine List.pairwise_cons.2 ⟨fun e he => ?_, h⟩
      rcases List.mem_cons.1 he with rfl | he
      · exact hlt
      · exact Std.TransCmp.lt_trans hlt (hq e he)
    · exact List.pairwise_cons.2 ⟨hq, hr⟩
    · next hgt =>
      refine List.pairwise_cons.2 ⟨fun e he => ?_, ih hr⟩
      have hlt : compare q p = .lt := Std.OrientedCmp.lt_of_gt hgt
      rcases mem_insertEntry he with he | ⟨f, hf, he⟩
      · exact he ▸ hlt
      · exact he ▸ hq f hf

/-- Give a place a value; the spelling of a path already there stays. -/
def insert (t : Table α) (p : Path) (v : α) : Table α :=
  ⟨insertEntry p v t.entries, sorted_insertEntry p v t.sorted⟩

/-- The value at a place. -/
def get? (t : Table α) (p : Path) : Option α :=
  (t.entries.find? fun e => e.1.same p).map (·.2)

/-- Insert several entries in turn. -/
def insertMany (t : Table α) (entries : List (Path × α)) : Table α :=
  entries.foldl (fun t e => t.insert e.1 e.2) t

/-- The table of the given entries. -/
def ofList (entries : List (Path × α)) : Table α := empty.insertMany entries

/-- The paths of a table in order. -/
def paths (t : Table α) : List Path := t.entries.map (·.1)

/-- Change every value. -/
def mapWithPath {β : Type} (t : Table α) (f : Path → α → β) : Table β :=
  ⟨t.entries.map fun e => (e.1, f e.1 e.2), by
    simpa [List.pairwise_map] using t.sorted⟩

@[simp] theorem entries_empty : (empty : Table α).entries = [] := rfl

@[simp] theorem paths_mapWithPath {β : Type} (t : Table α) (f : Path → α → β) :
    (t.mapWithPath f).paths = t.paths := by
  simp [paths, mapWithPath]

/-! ## Looking up -/

section Looking

variable {t : Table α} {p q : Path} {v : α} {entries : List (Path × α)}

theorem find?_insertEntry :
    ((insertEntry p v entries).find? fun e => e.1.same q).map (·.2) =
      if p.components = q.components then some v else (entries.find? fun e => e.1.same q).map (·.2) := by
  induction entries with
  | nil => by_cases same : p.components = q.components <;> simp [insertEntry_nil, Path.same, same]
  | cons e rest ih =>
    obtain ⟨r, w⟩ := e
    rw [insertEntry_cons]
    split
    · by_cases same : p.components = q.components <;> simp [Path.same, same]
    · next heq =>
      have place := compare_eq_iff.1 heq
      by_cases same : p.components = q.components <;> simp [Path.same, ← place, same]
    · next hgt =>
      have apart : p.components ≠ r.components := by
        intro place
        rw [compare_eq_iff.2 place] at hgt
        cases hgt
      by_cases here : r.components = q.components
      · rw [if_neg (here ▸ apart)]
        simp [Path.same, here]
      · simp only [List.find?_cons, Path.same, beq_eq_false_iff_ne.2 here]
        exact ih

/-- A place that is given a value has it, and no other place changes. -/
theorem get?_insert :
    (t.insert p v).get? q = if p.components = q.components then some v else t.get? q :=
  find?_insertEntry

theorem mem_paths_insert (h : q ∈ (t.insert p v).paths) : q = p ∨ q ∈ t.paths := by
  obtain ⟨e, he, rfl⟩ := List.mem_map.1 h
  exact (mem_insertEntry he).imp_right List.mem_map.2

/-- Of several values for one place the last one counts. -/
theorem get?_insertMany :
    (t.insertMany entries).get? q =
      ((entries.reverse.find? fun e => e.1.same q).map (·.2)).or (t.get? q) := by
  induction entries generalizing t with
  | nil => rfl
  | cons e entries ih =>
    rw [insertMany, List.foldl_cons, ← insertMany, ih, get?_insert, List.reverse_cons,
      List.find?_append, Option.map_or, Option.or_assoc]
    by_cases same : e.1.components = q.components <;> simp [Path.same, same]

/-- The paths of a table are spelled as they were inserted. -/
theorem mem_paths_insertMany (h : q ∈ (t.insertMany entries).paths) :
    q ∈ entries.map (·.1) ∨ q ∈ t.paths := by
  induction entries generalizing t with
  | nil => exact .inr h
  | cons e entries ih =>
    rcases ih h with h | h
    · exact .inl (List.mem_cons_of_mem _ h)
    · rcases mem_paths_insert h with rfl | h
      · exact .inl List.mem_cons_self
      · exact .inr h

theorem exists_mem_paths_iff : (∃ q ∈ t.paths, q.components = p.components) ↔ (t.get? p).isSome := by
  rw [get?, Option.isSome_map, List.find?_isSome, paths]
  simp [Path.same]

theorem nodup_paths (t : Table α) : t.paths.Nodup := by
  refine List.pairwise_map.2 (t.sorted.imp fun {a b} hlt same => ?_)
  rw [same, compare_eq_iff.2 rfl] at hlt
  cases hlt

/-- Two entries of a table are for different places. -/
theorem eq_of_mem_entries {a b : Path × α} (ha : a ∈ t.entries) (hb : b ∈ t.entries)
    (same : a.1.components = b.1.components) : a = b := by
  have apart : ∀ {i j : Nat} (hi : i < t.entries.length) (hj : j < t.entries.length), i < j →
      t.entries[i].1.components ≠ t.entries[j].1.components := by
    intro i j hi hj hij same
    have hlt := List.pairwise_iff_getElem.1 t.sorted i j hi hj hij
    rw [compare_eq_iff.2 same] at hlt
    cases hlt
  obtain ⟨i, hi, rfl⟩ := List.getElem_of_mem ha
  obtain ⟨j, hj, rfl⟩ := List.getElem_of_mem hb
  rcases Nat.lt_trichotomy i j with hij | rfl | hij
  · exact absurd same (apart hi hj hij)
  · rfl
  · exact absurd same.symm (apart hj hi hij)

theorem get?_mapWithPath {β : Type} {f : Path → α → β} (h : p ∈ t.paths) :
    ∃ v, (t.mapWithPath f).get? p = some (f p v) := by
  obtain ⟨e, he, rfl⟩ := List.mem_map.1 h
  refine ⟨e.2, ?_⟩
  have found : ((t.entries.map fun e => (e.1, f e.1 e.2)).find? fun g => g.1.same e.1).isSome = true :=
    List.find?_isSome.2 ⟨_, List.mem_map_of_mem he, same_iff.2 rfl⟩
  obtain ⟨g, hg⟩ := Option.isSome_iff_exists.1 found
  obtain ⟨e', he', rfl⟩ := List.mem_map.1 (List.mem_of_find?_eq_some hg)
  have same : e'.1.same e.1 = true := by simpa using List.find?_some hg
  obtain rfl := eq_of_mem_entries he' he (same_iff.1 same)
  exact congrArg (Option.map (·.2)) hg

end Looking

/-! ## The order of insertion -/

section Order

variable {t t' : Table α} {p : Path} {v : α} {entries new new' : List (Path × α)}

/-- A place that is not there yet becomes one more entry. -/
theorem perm_insertEntry (unknown : ∀ e ∈ entries, p.components ≠ e.1.components) :
    (insertEntry p v entries).Perm ((p, v) :: entries) := by
  induction entries with
  | nil => exact .refl _
  | cons e rest ih =>
    obtain ⟨q, w⟩ := e
    obtain ⟨apart, unknown⟩ := List.forall_mem_cons.1 unknown
    rw [insertEntry_cons]
    split
    · exact .refl _
    · next heq => exact absurd (compare_eq_iff.1 heq) apart
    · exact ((ih unknown).cons _).trans (.swap ..)

/-- Entries for different places. -/
def Apart (entries : List (Path × α)) : Prop :=
  entries.Pairwise fun a b => a.1.components ≠ b.1.components

/-- Entries for different places, none of them there yet, are all added. -/
theorem perm_insertMany (apart : Apart new)
    (unknown : ∀ a ∈ new, ∀ e ∈ t.entries, a.1.components ≠ e.1.components) :
    (t.insertMany new).entries.Perm (new ++ t.entries) := by
  induction new generalizing t with
  | nil => exact .refl _
  | cons a new ih =>
    obtain ⟨different, apart⟩ := List.pairwise_cons.1 apart
    obtain ⟨first, unknown⟩ := List.forall_mem_cons.1 unknown
    have added : (t.insert a.1 a.2).entries.Perm (a :: t.entries) := perm_insertEntry first
    have still : ∀ b ∈ new, ∀ e ∈ (t.insert a.1 a.2).entries, b.1.components ≠ e.1.components := by
      intro b hb e he
      rcases List.mem_cons.1 (added.mem_iff.1 he) with rfl | he
      · exact (different b hb).symm
      · exact unknown b hb e he
    exact ((ih apart still).trans (added.append_left new)).trans List.perm_middle

/-- Tables with the same entries are the same: the order is that of the paths. -/
theorem eq_of_perm (h : t.entries.Perm t'.entries) : t = t' := by
  have never : ∀ a b : Path × α, compare a.1 b.1 = .lt → compare b.1 a.1 = .lt → a = b :=
    fun a b hab hba => absurd hba (Std.OrientedCmp.not_lt_of_lt hab)
  have same : t.entries = t'.entries :=
    h.eq_of_pairwise (fun a b _ _ => never a b) t.sorted t'.sorted
  cases t
  cases t'
  cases same
  rfl

/-- In which order entries for different places are inserted does not matter. -/
theorem ofList_eq_of_perm (h : new.Perm new') (apart : Apart new) : ofList new = ofList new' := by
  have apart' : Apart new' := h.pairwise apart fun hab => Ne.symm hab
  have whole : (ofList new).entries.Perm (new ++ []) := perm_insertMany apart (by simp)
  have whole' : (ofList new').entries.Perm (new' ++ []) := perm_insertMany apart' (by simp)
  exact eq_of_perm ((whole.trans (h.append_right [])).trans whole'.symm)

end Order

end Table

/-- A set of places, each with the spelling that was inserted first. -/
abbrev Places := Table Unit

end CompileTree.Path
