import CompileTree.Proofs.Path.Ancestry

/-! # Components and normal forms

Two spellings of one place need not be the same text, but whatever is joined to
them has the same normal form, and so has whatever is joined to their directories.
Both follow from reading the components off the pieces between separators.
-/

namespace CompileTree.Path

/-- The component that stands for the beginning of a text with these pieces. -/
def leadOf : List (List Char) → List Component
  | [] :: _ :: _ => [.root]
  | ['.'] :: _ => [.here]
  | _ => []

theorem splitOn_cons {c : Char} (notSlash : c ≠ '/') (cs : List Char) :
    ∃ p ps, (c :: cs).splitOn '/' = (c :: p) :: ps ∧ cs.splitOn '/' = p :: ps := by
  obtain ⟨p, ps, h⟩ := List.exists_cons_of_ne_nil (List.splitOn_ne_nil '/' cs)
  refine ⟨p, ps, ?_, h⟩
  rw [List.splitOn_cons_eq_if_modifyHead, if_neg (by simpa using notSlash), h]
  rfl

theorem splitOn_slash_cons (cs : List Char) : ('/' :: cs).splitOn '/' = [] :: cs.splitOn '/' := by
  rw [List.splitOn_cons_eq_if_modifyHead, if_pos (by decide)]

theorem componentsOf_eq (cs : List Char) :
    componentsOf cs = leadOf (cs.splitOn '/') ++ (cs.splitOn '/').filterMap Component.ofPiece := by
  rw [componentsOf.eq_def]
  split
  · next cs =>
      obtain ⟨p, ps, h⟩ := List.exists_cons_of_ne_nil (List.splitOn_ne_nil '/' cs)
      rw [splitOn_slash_cons, h]
      rfl
  · rfl
  · next cs =>
      obtain ⟨p, ps, h, hrest⟩ := splitOn_cons (c := '.') (by decide) ('/' :: cs)
      rw [splitOn_slash_cons] at hrest
      obtain ⟨rfl, rfl⟩ := List.cons_eq_cons.1 hrest
      rw [h]
      rfl
  · next notRoot notHere notHereSlash =>
      cases cs with
      | nil => rfl
      | cons c cs =>
          have notSlash : c ≠ '/' := fun h => notRoot cs (h ▸ rfl)
          obtain ⟨p, ps, h, hrest⟩ := splitOn_cons notSlash cs
          have noLead : leadOf ((c :: p) :: ps) = [] := by
            rw [leadOf.eq_def]
            split
            · next heads => cases heads
            · next heads =>
                obtain ⟨⟨rfl, rfl⟩, -⟩ : (c = '.' ∧ p = []) ∧ _ := by simpa using heads
                cases cs with
                | nil => exact absurd rfl notHere
                | cons d ds =>
                    by_cases slash : d = '/'
                    · exact absurd rfl (slash ▸ notHereSlash ds)
                    · obtain ⟨q, qs, hq, -⟩ := splitOn_cons slash ds
                      rw [hq] at hrest
                      cases hrest
            · rfl
          rw [h, noLead]
          rfl

theorem ofPiece_eq_some {piece : List Char} (nonempty : piece ≠ []) (notHere : piece ≠ ['.']) :
    ∃ c, Component.ofPiece piece = some c ∧ c.label.toList = piece := by
  rw [Component.ofPiece.eq_def]
  split
  · exact absurd rfl nonempty
  · exact absurd rfl notHere
  · exact ⟨.up, rfl, rfl⟩
  · exact ⟨_, rfl, String.toList_ofList⟩

/-- The first component of a text starts like the text itself. -/
theorem componentsOf_cons (c : Char) (cs : List Char) :
    ∃ first rest, componentsOf (c :: cs) = first :: rest ∧
      rooted first.label.toList = rooted (c :: cs) := by
  rw [componentsOf_eq]
  by_cases slash : c = '/'
  · subst slash
    obtain ⟨p, ps, h⟩ := List.exists_cons_of_ne_nil (List.splitOn_ne_nil '/' cs)
    rw [splitOn_slash_cons, h]
    exact ⟨.root, _, rfl, rfl⟩
  · obtain ⟨p, ps, h, -⟩ := splitOn_cons slash cs
    rw [h]
    by_cases here : c :: p = ['.']
    · obtain ⟨rfl, rfl⟩ := List.cons_eq_cons.1 here
      exact ⟨.here, _, rfl, rfl⟩
    · obtain ⟨first, hfirst, label⟩ := ofPiece_eq_some (by simp) here
      have noLead : leadOf ((c :: p) :: ps) = [] := by
        rw [leadOf.eq_def]
        split <;> simp_all
      refine ⟨first, ps.filterMap Component.ofPiece, ?_, ?_⟩
      · rw [noLead, List.nil_append, List.filterMap_cons_some hfirst]
      · rw [label]
        rfl

theorem componentsOf_eq_nil_iff {cs : List Char} : componentsOf cs = [] ↔ cs = [] := by
  cases cs with
  | nil => exact ⟨fun _ => rfl, fun _ => rfl⟩
  | cons c cs =>
      obtain ⟨first, rest, h, -⟩ := componentsOf_cons c cs
      simp [h]

theorem rooted_eq_components (cs : List Char) :
    rooted cs = (componentsOf cs).head?.any fun c => rooted c.label.toList := by
  cases cs with
  | nil => rfl
  | cons c cs =>
      obtain ⟨first, rest, h, starts⟩ := componentsOf_cons c cs
      rw [h, List.head?_cons, Option.any_some, starts]

/-! ## Folding components -/

theorem pieces_intercalate {names : List (List Char)} (nonempty : names ≠ []) :
    pieces (['/'].intercalate names) = names.flatMap pieces := by
  induction names with
  | nil => exact absurd rfl nonempty
  | cons name names ih =>
      by_cases last : names = []
      · subst last
        simp
      · rw [List.intercalate_cons_of_ne_nil last, List.append_assoc, List.singleton_append,
          pieces_append_slash, ih last, List.flatMap_cons]

theorem pieces_eq_flatMap (cs : List Char) : pieces cs = (cs.splitOn '/').flatMap pieces := by
  have joined := pieces_intercalate (List.splitOn_ne_nil '/' cs)
  rwa [List.intercalate_splitOn] at joined

/-- The pieces that a component is folded as. -/
def Component.pieces (c : Component) : List (List Char) := Path.pieces c.label.toList

theorem foldl_pieces_of_none {absolute : Bool} {stack : List (List Char)} {piece : List Char}
    (h : Component.ofPiece piece = none) :
    (pieces piece).foldl (foldPiece absolute) stack = stack := by
  rw [Component.ofPiece.eq_def] at h
  split at h
  · rfl
  · rfl
  · cases h
  · cases h

theorem pieces_of_some {piece : List Char} {c : Component} (h : Component.ofPiece piece = some c) :
    c.pieces = pieces piece := by
  have counted : piece ≠ [] ∧ piece ≠ ['.'] := by
    constructor <;> rintro rfl <;> cases h
  obtain ⟨c', hc', label⟩ := ofPiece_eq_some counted.1 counted.2
  obtain rfl : c = c' := Option.some.inj (h.symm.trans hc')
  rw [Component.pieces, label]

/-- Folding passes over the pieces that are no components. -/
theorem foldl_filterMap_ofPiece (absolute : Bool) (l : List (List Char)) (stack : List (List Char)) :
    ((l.filterMap Component.ofPiece).flatMap Component.pieces).foldl (foldPiece absolute) stack =
      (l.flatMap pieces).foldl (foldPiece absolute) stack := by
  induction l generalizing stack with
  | nil => rfl
  | cons piece l ih =>
      rw [List.flatMap_cons, List.foldl_append]
      cases h : Component.ofPiece piece with
      | none => rw [List.filterMap_cons_none h, foldl_pieces_of_none h, ih]
      | some c =>
          rw [List.filterMap_cons_some h, List.flatMap_cons, List.foldl_append, pieces_of_some h, ih]

theorem foldl_leadOf (absolute : Bool) (l : List (List Char)) (stack : List (List Char)) :
    ((leadOf l).flatMap Component.pieces).foldl (foldPiece absolute) stack = stack := by
  rw [leadOf.eq_def]
  split <;> rfl

theorem steps_eq_components (cs : List Char) :
    steps cs = foldPieces (rooted cs) ((componentsOf cs).flatMap Component.pieces) := by
  rw [steps, foldPieces, foldPieces, componentsOf_eq, List.flatMap_append, List.foldl_append,
    foldl_leadOf, foldl_filterMap_ofPiece, pieces_eq_flatMap]

section Spellings

variable {a b : List Char}

theorem rooted_congr (same : componentsOf a = componentsOf b) : rooted a = rooted b := by
  rw [rooted_eq_components, rooted_eq_components, same]

theorem steps_congr (same : componentsOf a = componentsOf b) : steps a = steps b := by
  rw [steps_eq_components, steps_eq_components, rooted_congr same, same]

end Spellings

/-! ## Joining -/

theorem chars_eq_nil_iff {p : Path} : p.chars = [] ↔ p = ⟨""⟩ := by
  constructor
  · intro h
    cases p
    exact congrArg Path.mk (String.toList_eq_nil_iff.1 h)
  · rintro rfl
    rfl

theorem steps_append_of_slash {a b : List Char} (ends : a.getLast? = some '/') :
    steps (a ++ b) = steps (a ++ '/' :: b) := by
  obtain ⟨y, rfl⟩ := List.getLast?_eq_some_iff.1 ends
  have once : pieces (y ++ ['/'] ++ b) = pieces y ++ pieces b := by
    rw [List.append_assoc, List.singleton_append, pieces_append_slash]
  have twice : pieces (y ++ ['/'] ++ '/' :: b) = pieces y ++ [[]] ++ pieces b := by
    rw [pieces_append_slash, pieces_append_slash]
    rfl
  have nonempty : y ++ ['/'] ≠ [] := by simp
  rw [steps, steps, once, twice, rooted_append nonempty, rooted_append nonempty, foldPieces, foldPieces,
    List.foldl_append, List.foldl_append, List.foldl_append]
  rfl

section Join

variable {p q r : Path}

/-- A relative path is folded behind what it is joined to. -/
theorem join_folds (nonempty : p.chars ≠ []) (relative : r.isAbsolute = false) :
    rooted (p.join r).chars = rooted p.chars ∧
      steps (p.join r).chars =
        ((pieces r.chars).foldl (foldPiece (rooted p.chars)) (steps p.chars).reverse).reverse := by
  rw [join, relative, if_neg (by decide), ← steps_append_slash nonempty]
  by_cases ends : p.chars.getLast? = some '/'
  · have joined : (Path.mk (p.text ++ r.text)).chars = p.chars ++ r.chars := by simp [chars]
    rw [if_pos (by simp [ends]), joined]
    exact ⟨rooted_append nonempty, steps_append_of_slash ends⟩
  · have joined : (Path.mk (p.text ++ "/" ++ r.text)).chars = p.chars ++ '/' :: r.chars := by
      simp [chars]
    rw [if_neg (by simp [ends, nonempty]), joined]
    exact ⟨rooted_append nonempty, rfl⟩

/-- Joining to another spelling of a place gives the same normal form. -/
theorem normal_join_congr (same : p.components = q.components) :
    (p.join r).normal = (q.join r).normal := by
  cases absolute : r.isAbsolute with
  | true => rw [join, join, if_pos absolute, if_pos absolute]
  | false =>
      by_cases empty : p.chars = []
      · have hq : q.chars = [] := by
          rw [components, components, componentsOf_eq_nil_iff.2 empty] at same
          exact componentsOf_eq_nil_iff.1 same.symm
        rw [chars_eq_nil_iff.1 empty, chars_eq_nil_iff.1 hq]
      · have hq : q.chars ≠ [] := by
          intro hq
          rw [components, components, componentsOf_eq_nil_iff.2 hq] at same
          exact empty (componentsOf_eq_nil_iff.1 same)
        obtain ⟨rootP, foldP⟩ := join_folds empty absolute
        obtain ⟨rootQ, foldQ⟩ := join_folds hq absolute
        have folded : normalChars (p.join r).chars = normalChars (q.join r).chars := by
          refine normalChars_congr ?_ ?_
          · rw [rootP, rootQ, rooted_congr same]
          · rw [foldP, foldQ, rooted_congr same, steps_congr same]
        exact congrArg (fun cs => Path.mk (String.ofList cs)) folded

end Join

/-! ## Directories -/

/-- A list of pieces is cut before the last one that is a component. -/
theorem exists_last_component {l : List (List Char)} (nonempty : l.filterMap Component.ofPiece ≠ []) :
    ∃ a piece b c, l = a ++ piece :: b ∧ Component.ofPiece piece = some c ∧
      l.filterMap Component.ofPiece = a.filterMap Component.ofPiece ++ [c] := by
  induction l using List.reverseRecOn with
  | nil => exact absurd rfl nonempty
  | append_singleton l piece ih =>
      rw [List.filterMap_append] at nonempty ⊢
      cases h : Component.ofPiece piece with
      | some c =>
          refine ⟨l, piece, [], c, rfl, h, ?_⟩
          rw [List.filterMap_cons_some h, List.filterMap_nil]
      | none =>
          rw [List.filterMap_cons_none h, List.filterMap_nil, List.append_nil] at nonempty ⊢
          obtain ⟨a, piece', b, c, rfl, hc, hinit⟩ := ih nonempty
          exact ⟨a, piece', b ++ [piece], c, by simp, hc, hinit⟩

theorem leadOf_append {a b b' : List (List Char)} (ha : a ≠ []) (hb : b ≠ []) (hb' : b' ≠ []) :
    leadOf (a ++ b) = leadOf (a ++ b') := by
  obtain ⟨x, xs, rfl⟩ := List.exists_cons_of_ne_nil ha
  obtain ⟨y, ys, hy⟩ := List.exists_cons_of_ne_nil (l := xs ++ b) (by simp [hb])
  obtain ⟨y', ys', hy'⟩ := List.exists_cons_of_ne_nil (l := xs ++ b') (by simp [hb'])
  rw [List.cons_append, List.cons_append, hy, hy']
  rw [leadOf.eq_def, leadOf.eq_def]
  split <;> simp_all

/-- What stands before a separator, with it, has the pieces before it. -/
theorem componentsOf_cut {a b : List (List Char)} (plain : ∀ piece ∈ a, '/' ∉ piece) (ha : a ≠ [])
    (hb : b ≠ []) :
    componentsOf (['/'].intercalate a ++ ['/']) = leadOf (a ++ b) ++ a.filterMap Component.ofPiece := by
  have cut : (['/'].intercalate a ++ ['/']).splitOn '/' = a ++ [[]] := by
    rw [List.splitOn_append_cons_self, List.splitOn_intercalate _ plain ha]
    rfl
  rw [componentsOf_eq, cut, List.filterMap_append, leadOf_append ha (by simp) hb]
  exact congrArg _ (List.append_nil _)

/-- All components but the last are those of a beginning of the text. -/
theorem exists_beginning {cs : List Char} (notRoot : (componentsOf cs).getLast? ≠ some .root) :
    ∃ n ≤ cs.length, componentsOf (cs.take n) = (componentsOf cs).dropLast := by
  have start : componentsOf (cs.take 0) = [] := rfl
  rw [componentsOf_eq] at notRoot ⊢
  by_cases counted : (cs.splitOn '/').filterMap Component.ofPiece = []
  · refine ⟨0, Nat.zero_le _, ?_⟩
    rw [counted, List.append_nil] at notRoot ⊢
    rw [start]
    rw [leadOf.eq_def] at *
    split at notRoot <;> simp_all
  · obtain ⟨a, piece, b, c, hsplit, hpiece, hinit⟩ := exists_last_component counted
    rw [hinit, ← List.append_assoc, List.dropLast_concat]
    by_cases ha : a = []
    · subst ha
      have noLead : leadOf (piece :: b) = [] := by
        rw [leadOf.eq_def]
        split <;> simp_all [Component.ofPiece]
      refine ⟨0, Nat.zero_le _, ?_⟩
      rw [start, hsplit, List.nil_append, noLead]
      rfl
    · have joined : ['/'].intercalate (cs.splitOn '/') = cs := List.intercalate_splitOn '/'
      rw [hsplit, intercalate_append ha (by simp), absoluteText, List.append_cons] at joined
      have taken : cs.take (['/'].intercalate a ++ ['/']).length = ['/'].intercalate a ++ ['/'] := by
        rw [← joined, List.take_left]
      have plain : ∀ p ∈ a, '/' ∉ p := fun p hp =>
        (notMem_of_mem_splitOn (hsplit ▸ List.mem_append_left _ hp)).1
      refine ⟨(['/'].intercalate a ++ ['/']).length, ?_, ?_⟩
      · rw [← joined]
        simp
      · rw [taken, hsplit, componentsOf_cut plain ha (List.cons_ne_nil piece b)]

theorem ofPiece_ne_root (piece : List Char) : Component.ofPiece piece ≠ some .root := by
  rw [Component.ofPiece.eq_def]
  split <;> simp

/-- The root is the last component of nothing but the root itself. -/
theorem dropLast_of_root {cs : List Char} (isRoot : (componentsOf cs).getLast? = some .root) :
    (componentsOf cs).dropLast = [] := by
  rw [componentsOf_eq] at *
  by_cases counted : (cs.splitOn '/').filterMap Component.ofPiece = []
  · rw [counted, List.append_nil, leadOf.eq_def]
    split <;> rfl
  · rw [List.getLast?_append_of_ne_nil _ counted] at isRoot
    obtain ⟨piece, -, h⟩ := List.mem_filterMap.1 (List.mem_of_getLast? isRoot)
    exact absurd h (ofPiece_ne_root piece)

/-- The directory of a path has all of its components but the last. -/
theorem components_directory (p : Path) : p.directory.components = p.components.dropLast := by
  rw [directory, parent?]
  split
  · next none =>
      rw [List.getLast?_eq_none_iff.1 none]
      rfl
  · next root => exact (dropLast_of_root root).symm
  · next c notRoot last =>
      have hlast : (componentsOf p.chars).getLast? ≠ some .root := by
        rw [show componentsOf p.chars = p.components from rfl, last]
        exact fun h => notRoot (Option.some.inj h)
      obtain ⟨n, hn, hbeginning⟩ := exists_beginning hlast
      cases found : (List.range (p.chars.length + 1)).findSome? fun n =>
          if componentsOf (p.chars.take n) = p.components.dropLast then
            some (Path.mk (String.ofList (p.chars.take n)))
          else none with
      | none =>
          have := List.findSome?_eq_none_iff.1 found n (List.mem_range.2 (by omega))
          simp [hbeginning, components] at this
      | some d =>
          obtain ⟨m, -, hm⟩ := List.exists_of_findSome?_eq_some found
          split at hm
          · next h =>
              cases hm
              rw [← h]
              simp [components, chars]
          · cases hm

/-- What stands next to a file does not depend on how the file is spelled. -/
theorem normal_directory_join_congr {p q r : Path} (same : p.components = q.components) :
    (p.directory.join r).normal = (q.directory.join r).normal := by
  refine normal_join_congr ?_
  rw [components_directory, components_directory, same]

end CompileTree.Path
