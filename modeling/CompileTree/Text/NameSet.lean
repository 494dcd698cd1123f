/-! # Sets of names

A set of texts is the list of its members in increasing order by code points, each of
them once.
-/

namespace CompileTree.Text

/-- Add a name to a set. -/
def insertName (name : String) : List String → List String
  | [] => [name]
  | n :: ns =>
    match compare name n with
    | .lt => name :: n :: ns
    | .eq => n :: ns
    | .gt => n :: insertName name ns

/-- The set of the given names. -/
def nameSet (names : List String) : List String := names.foldl (fun set name => insertName name set) []

section

variable {names : List String} {name n : String}

theorem mem_insertName : n ∈ insertName name names ↔ n = name ∨ n ∈ names := by
  induction names with
  | nil => simp [insertName]
  | cons m ms ih =>
    rw [insertName]
    split
    · simp
    · next h =>
      have : name = m := Std.LawfulEqOrd.compare_eq_iff_eq.1 h
      simp [this]
    · simp only [List.mem_cons, ih]
      grind

theorem pairwise_insertName (h : names.Pairwise (· < ·)) :
    (insertName name names).Pairwise (· < ·) := by
  induction names with
  | nil => simp [insertName]
  | cons m ms ih =>
    obtain ⟨hm, hms⟩ := List.pairwise_cons.1 h
    rw [insertName]
    split
    · next hlt =>
      have first : name < m := compareOfLessAndEq_eq_lt.1 hlt
      refine List.pairwise_cons.2 ⟨fun n hn => ?_, h⟩
      rcases List.mem_cons.1 hn with rfl | hn
      · exact first
      · exact String.lt_trans first (hm n hn)
    · exact h
    · next hgt =>
      have swapped : compare m name = .lt := Std.OrientedCmp.lt_of_gt hgt
      have later : m < name := compareOfLessAndEq_eq_lt.1 swapped
      refine List.pairwise_cons.2 ⟨fun n hn => ?_, ih hms⟩
      rcases mem_insertName.1 hn with rfl | hn
      · exact later
      · exact hm n hn

theorem mem_foldl_insertName {set : List String} :
    n ∈ names.foldl (fun set name => insertName name set) set ↔ n ∈ names ∨ n ∈ set := by
  induction names generalizing set with
  | nil => simp
  | cons m ms ih =>
    rw [List.foldl_cons, ih, mem_insertName, List.mem_cons]
    grind

theorem mem_nameSet : n ∈ nameSet names ↔ n ∈ names := by
  rw [nameSet, mem_foldl_insertName]
  simp

theorem pairwise_nameSet (names : List String) : (nameSet names).Pairwise (· < ·) :=
  List.foldlRecOn names _ .nil fun _ h _ _ => pairwise_insertName h

theorem nodup_nameSet (names : List String) : (nameSet names).Nodup :=
  (pairwise_nameSet names).imp fun {a b} (h : a < b) (same : a = b) => String.lt_irrefl b (same ▸ h)

end

end CompileTree.Text
