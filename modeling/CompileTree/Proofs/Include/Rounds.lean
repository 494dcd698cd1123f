import CompileTree.Proofs.Include.Walk
import Mathlib.Algebra.BigOperators.Group.List.Basic
import Mathlib.Algebra.GroupWithZero.Nat
import Mathlib.Data.Nat.Find
import Mathlib.Logic.Function.Iterate

/-! # The include walk round by round

A round takes the first file of the queue. It passes over a file that was taken before
and one that was not read, and expands any other: where its directives lead goes to
the end of the queue. However often files lead to each other, a round uses up one
place of the queue and an expansion uses up the file, so the rounds come to an end
(`remaining_round`); and no file is expanded twice (`Sound.round`).
-/

namespace CompileTree.Include

/-- Where a walk stands. -/
structure Standing where
  queue : List Path
  /-- The files that were taken from the queue. -/
  visited : List Path
  names : List String
  /-- The files that were expanded, in order. -/
  expanded : List Path
  deriving DecidableEq, Repr

section Walk

variable {isFile : Path → Bool} {index : SuffixIndex} {unread : List (Path × List Directive)}
  {names : List String} {file : Path} {queue : List Path}

theorem walk_cons_of_pull_none (h : pull? file unread = none) :
    walk isFile index unread names (file :: queue) = walk isFile index unread names queue := by
  rw [walk]
  split
  · rfl
  · next found =>
      rw [h] at found
      cases found

theorem walk_cons_of_pull {e : Path × List Directive} {rest : List (Path × List Directive)}
    (h : pull? file unread = some (e, rest)) :
    walk isFile index unread names (file :: queue) =
      walk isFile index rest
        ((e.2.map (follow isFile index file.directory)).foldl (fun names s => addName names s.2) names)
        (queue ++ (e.2.map (follow isFile index file.directory)).flatMap (·.1)) := by
  rw [walk]
  split
  · next missing =>
      rw [h] at missing
      cases missing
  · next found =>
      rw [h] at found
      cases found
      rfl

end Walk

namespace Standing

/-- Before the first round from a source. -/
def start (source : Path) : Standing := ⟨[source], [], [], []⟩

/-- The file, or another spelling of it, was taken before. -/
def Visited (s : Standing) (file : Path) : Prop := ∃ f ∈ s.visited, f.components = file.components

section Definitions

variable (isFile : Path → Bool) (index : SuffixIndex) (table : DirectiveTable)

/-- One round; none is left when the queue is empty. -/
def round (s : Standing) : Standing :=
  match s.queue with
  | [] => s
  | file :: queue =>
    if s.visited.any (·.same file) then { s with queue := queue }
    else
      match table.get? file with
      | none => { s with queue := queue, visited := file :: s.visited }
      | some directives =>
        let steps := directives.map (follow isFile index file.directory)
        { queue := queue ++ steps.flatMap (·.1)
          visited := file :: s.visited
          names := steps.foldl (fun names s => addName names s.2) s.names
          expanded := s.expanded ++ [file] }

/-- Where the walk from a source stands after so many rounds. -/
def after (source : Path) (rounds : Nat) : Standing :=
  (round isFile index table)^[rounds] (start source)

/-- The files to which one that was read leads, as often as it does. -/
def followed (e : Path × List Directive) : List Path :=
  (e.2.map (follow isFile index e.1.directory)).flatMap (·.1)

/-- The files that were read and are not among those that were taken, with their directives. -/
def unread (visited : List Path) : List (Path × List Directive) :=
  table.entries.filter fun e => !visited.any (·.same e.1)

/-- How many rounds may still come. -/
def remaining (s : Standing) : Nat :=
  s.queue.length + ((unread table s.visited).map fun e => (followed isFile index e).length).sum

end Definitions

variable {isFile : Path → Bool} {index : SuffixIndex} {table : DirectiveTable} {s : Standing}
  {source file : Path} {queue : List Path} {directives : List Directive}

theorem any_visited : s.visited.any (·.same file) = true ↔ s.Visited file := by
  simp [Visited, Path.same_iff]

theorem Visited.congr {other : Path} (h : s.Visited file) (same : file.components = other.components) :
    s.Visited other := by
  obtain ⟨f, hf, place⟩ := h
  exact ⟨f, hf, place.trans same⟩

theorem get?_congr {other : Path} (same : file.components = other.components) :
    table.get? file = table.get? other := by
  simp only [Path.Table.get?, Path.same, same]

/-! ## One round -/

theorem directivesOf_of_get? (read : table.get? file = some directives) :
    directivesOf table.entries file = directives := by
  rw [directivesOf, ← Path.Table.get?, read]
  rfl

theorem round_of_nil (h : s.queue = []) : s.round isFile index table = s := by
  rw [round, h]

theorem round_of_visited (h : s.queue = file :: queue) (visited : s.Visited file) :
    s.round isFile index table = { s with queue := queue } := by
  simp only [round, h, any_visited.2 visited, if_true]

theorem round_of_unread (h : s.queue = file :: queue) (fresh : ¬ s.Visited file)
    (unknown : table.get? file = none) :
    s.round isFile index table = { s with queue := queue, visited := file :: s.visited } := by
  simp only [round, h, if_neg (mt any_visited.1 fresh), unknown]

theorem round_of_read (h : s.queue = file :: queue) (fresh : ¬ s.Visited file)
    (read : table.get? file = some directives) :
    s.round isFile index table =
      { queue := queue ++ followed isFile index (file, directives)
        visited := file :: s.visited
        names := addNames s.names (requested isFile table.entries file)
        expanded := s.expanded ++ [file] } := by
  have own : (directives.map (follow isFile index file.directory)).filterMap (·.2) =
      requested isFile table.entries file := filterMap_followed (directivesOf_of_get? read)
  simp only [round, h, if_neg (mt any_visited.1 fresh), read, foldl_addName, own]
  rfl

/-- What a round does. -/
theorem round_cases (isFile : Path → Bool) (index : SuffixIndex) (table : DirectiveTable)
    (h : s.queue = file :: queue) :
    s.Visited file ∧ s.round isFile index table = { s with queue := queue } ∨
      ¬ s.Visited file ∧ table.get? file = none ∧
        s.round isFile index table = { s with queue := queue, visited := file :: s.visited } ∨
      ¬ s.Visited file ∧ ∃ directives, table.get? file = some directives ∧
        s.round isFile index table =
          { queue := queue ++ followed isFile index (file, directives)
            visited := file :: s.visited
            names := addNames s.names (requested isFile table.entries file)
            expanded := s.expanded ++ [file] } := by
  by_cases visited : s.Visited file
  · exact .inl ⟨visited, round_of_visited h visited⟩
  · cases read : table.get? file with
    | none => exact .inr (.inl ⟨visited, rfl, round_of_unread h visited read⟩)
    | some directives => exact .inr (.inr ⟨visited, directives, rfl, round_of_read h visited read⟩)

/-! ## What is left to be read -/

theorem mem_unread {e : Path × List Directive} :
    e ∈ unread table s.visited ↔ e ∈ table.entries ∧ ¬ s.Visited e.1 := by
  rw [unread, List.mem_filter, Bool.not_eq_true', ← any_visited, Bool.not_eq_true]

theorem unread_nil : unread table [] = table.entries := List.filter_eq_self.2 fun _ _ => rfl

theorem isSome_get? {e : Path × List Directive} (entry : e ∈ table.entries)
    (place : e.1.components = file.components) : (table.get? file).isSome :=
  Path.Table.exists_mem_paths_iff.1 ⟨e.1, List.mem_map_of_mem entry, place⟩

theorem pull?_unread_eq_none (h : s.Visited file ∨ table.get? file = none) :
    pull? file (unread table s.visited) = none := by
  by_contra found
  obtain ⟨⟨e, rest⟩, pulled⟩ := Option.ne_none_iff_exists'.1 found
  obtain ⟨before, later, split, -, place, -⟩ := pull?_eq_some pulled
  have left : e ∈ unread table s.visited := split ▸ List.mem_append_right _ List.mem_cons_self
  obtain ⟨entry, fresh⟩ := mem_unread.1 left
  rcases h with visited | unknown
  · exact fresh (visited.congr place.symm)
  · simpa [unknown] using isSome_get? entry place

theorem unread_cons : unread table (file :: s.visited) =
    (unread table s.visited).filter fun e => !file.same e.1 := by
  rw [unread, unread, List.filter_filter]
  refine List.filter_congr fun e _ => ?_
  rw [List.any_cons, Bool.not_or]

theorem unread_cons_of_none (unknown : table.get? file = none) :
    unread table (file :: s.visited) = unread table s.visited := by
  rw [unread_cons, List.filter_eq_self]
  intro e he
  rw [Bool.not_eq_true', ← Bool.not_eq_true, Path.same_iff]
  intro same
  simpa [unknown] using isSome_get? (mem_unread.1 he).1 same.symm

theorem rest_of_pull {p : Path} {entries rest : List (Path × List Directive)}
    {e : Path × List Directive} (distinct : Distinct entries) (h : pull? p entries = some (e, rest)) :
    rest = entries.filter fun b => !p.same b.1 := by
  obtain ⟨before, later, rfl, rfl, place, hbefore⟩ := pull?_eq_some h
  have passed : ∀ b : Path × List Directive, b.1.components ≠ p.components → (!p.same b.1) = true := by
    intro b other
    rw [Bool.not_eq_true', ← Bool.not_eq_true, Path.same_iff]
    exact Ne.symm other
  have hlater : ∀ b ∈ later, b.1.components ≠ p.components := by
    intro b hb
    rw [← place]
    exact (List.rel_of_pairwise_cons (List.pairwise_append.1 distinct).2.1 hb).symm
  rw [List.filter_append, List.filter_cons_of_neg (by simp [Path.same_iff, place]),
    List.filter_eq_self.2 fun b hb => passed b (hbefore b hb),
    List.filter_eq_self.2 fun b hb => passed b (hlater b hb)]

/-- A file that was read and not taken before has its entry left, beside those that
    are left when it is taken. -/
theorem pull?_unread (fresh : ¬ s.Visited file) (read : table.get? file = some directives) :
    ∃ place, place.components = file.components ∧
      pull? file (unread table s.visited) =
        some ((place, directives), unread table (file :: s.visited)) := by
  obtain ⟨e, found, rfl⟩ := Option.map_eq_some_iff.1 read
  have named : e.1.same file = true := by simpa using List.find?_some found
  have place : e.1.components = file.components := Path.same_iff.1 named
  have entry : e ∈ table.entries := List.mem_of_find?_eq_some found
  have left : e ∈ unread table s.visited :=
    mem_unread.2 ⟨entry, fun visited => fresh (visited.congr place)⟩
  cases pulled : pull? file (unread table s.visited) with
  | none => exact absurd place (pull?_eq_none pulled e left)
  | some pair =>
      obtain ⟨first, rest⟩ := pair
      have distinct : Distinct (unread table s.visited) := (distinct_entries table).filter _
      obtain ⟨before, later, split, -, same, -⟩ := pull?_eq_some pulled
      have also : first ∈ table.entries :=
        (mem_unread.1 (split ▸ List.mem_append_right _ List.mem_cons_self)).1
      obtain rfl : first = e := Path.Table.eq_of_mem_entries also entry (same.trans place.symm)
      exact ⟨first.1, place, by rw [rest_of_pull distinct pulled, unread_cons]⟩

theorem followed_congr {other : Path} (same : file.components = other.components) :
    followed isFile index (file, directives) = followed isFile index (other, directives) := by
  have alike : directives.map (follow isFile index file.directory) =
      directives.map (follow isFile index other.directory) := by
    refine List.map_congr_left fun d _ => ?_
    have beside : sibling file.directory d.name = sibling other.directory d.name :=
      Path.normal_directory_join_congr same
    rw [follow, follow, beside]
  rw [followed, followed, alike]

/-- A round does not change where the walk ends. -/
theorem walk_round :
    walk isFile index (unread table (s.round isFile index table).visited)
        (s.round isFile index table).names (s.round isFile index table).queue =
      walk isFile index (unread table s.visited) s.names s.queue := by
  cases h : s.queue with
  | nil => rw [round_of_nil h, h]
  | cons file queue =>
      rcases round_cases isFile index table h with
        ⟨visited, hround⟩ | ⟨-, unknown, hround⟩ | ⟨fresh, directives, read, hround⟩
      · rw [hround, walk_cons_of_pull_none (pull?_unread_eq_none (.inl visited))]
      · rw [hround, walk_cons_of_pull_none (pull?_unread_eq_none (.inr unknown))]
        exact congrArg (walk isFile index · s.names queue) (unread_cons_of_none unknown)
      · obtain ⟨place, -, pulled⟩ := pull?_unread fresh read
        rw [hround, walk_cons_of_pull pulled, foldl_addName, filterMap_followed (directivesOf_of_get? read)]
        rfl

/-- A round uses up one of those that may come. -/
theorem remaining_round (some : s.queue ≠ []) :
    (s.round isFile index table).remaining isFile index table + 1 = s.remaining isFile index table := by
  obtain ⟨file, queue, h⟩ := List.exists_cons_of_ne_nil some
  rw [remaining, remaining, h, List.length_cons]
  rcases round_cases isFile index table h with
    ⟨-, hround⟩ | ⟨-, unknown, hround⟩ | ⟨fresh, directives, read, hround⟩
  · simp only [hround]
    omega
  · simp only [hround, unread_cons_of_none unknown]
    omega
  · obtain ⟨place, same, pulled⟩ := pull?_unread fresh read
    obtain ⟨before, later, split, rest, -, -⟩ := pull?_eq_some pulled
    simp only [hround, split, rest, List.length_append, List.map_append, List.map_cons,
      List.sum_append, List.sum_cons, followed_congr same]
    omega

/-! ## What was expanded -/

/-- The file waits in the queue or was taken from it. -/
def Sighted (s : Standing) (f : Path) : Prop := f ∈ s.queue ∨ s.Visited f

/-- What a walk from a source knows where it stands. -/
structure Sound (isFile : Path → Bool) (index : SuffixIndex) (table : DirectiveTable) (source : Path)
    (s : Standing) : Prop where
  /-- What was expanded is what was taken and read. -/
  expanded : ∀ f, f ∈ s.expanded ↔ f ∈ s.visited ∧ (table.get? f).isSome
  once : s.expanded.Pairwise fun f g => f.components ≠ g.components
  reached : ∀ f ∈ s.queue ++ s.visited, Reach isFile index table.entries [source] f
  /-- Neither the source nor what a file leads to that was taken gets out of sight. -/
  source : s.Sighted source
  followed : ∀ f ∈ s.visited, ∀ next, Leads isFile index table.entries f next → s.Sighted next

theorem sound_start : (start source).Sound isFile index table source where
  expanded f := by simp [start]
  once := .nil
  reached f hf := .start (by simpa [start] using hf)
  source := .inl List.mem_cons_self
  followed f hf := by cases hf

/-- A file that is taken from the queue is visited then. -/
theorem Sighted.take {s' : Standing} {f : Path} (h : s.Sighted f) (hqueue : s.queue = file :: queue)
    (taken : s'.Visited file) (queued : ∀ g ∈ queue, g ∈ s'.queue)
    (kept : ∀ g ∈ s.visited, g ∈ s'.visited) : s'.Sighted f := by
  rcases h with waits | ⟨g, hg, place⟩
  · rw [hqueue] at waits
    rcases List.mem_cons.1 waits with rfl | waits
    · exact .inr taken
    · exact .inl (queued f waits)
  · exact .inr ⟨g, kept g hg, place⟩

theorem Sighted.round {f : Path} (h : s.Sighted f) : (s.round isFile index table).Sighted f := by
  cases hqueue : s.queue with
  | nil => rwa [round_of_nil hqueue]
  | cons file queue =>
      rcases round_cases isFile index table hqueue with
        ⟨visited, hround⟩ | ⟨-, -, hround⟩ | ⟨-, directives, -, hround⟩
      · rw [hround]
        exact h.take hqueue visited (fun _ hg => hg) fun _ hg => hg
      · rw [hround]
        exact h.take hqueue ⟨file, List.mem_cons_self, rfl⟩ (fun _ hg => hg)
          fun _ hg => List.mem_cons_of_mem file hg
      · rw [hround]
        exact h.take hqueue ⟨file, List.mem_cons_self, rfl⟩ (fun _ hg => List.mem_append_left _ hg)
          fun _ hg => List.mem_cons_of_mem file hg

theorem Sound.round (h : s.Sound isFile index table source) :
    (s.round isFile index table).Sound isFile index table source := by
  cases hqueue : s.queue with
  | nil => rwa [round_of_nil hqueue]
  | cons file queue =>
      obtain ⟨hexpanded, honce, hreached, hsource, hfollowed⟩ := h
      rw [hqueue] at hreached
      have sighted : ∀ f, s.Sighted f → (s.round isFile index table).Sighted f := fun _ hf => hf.round
      rcases round_cases isFile index table hqueue with
        ⟨visited, hround⟩ | ⟨fresh, unknown, hround⟩ | ⟨fresh, directives, read, hround⟩
      · rw [hround] at sighted ⊢
        exact ⟨hexpanded, honce, fun f hf => hreached f (List.mem_cons_of_mem file hf),
          sighted _ hsource, fun f hf next hnext => sighted _ (hfollowed f hf next hnext)⟩
      · rw [hround] at sighted ⊢
        refine ⟨fun f => ?_, honce, fun f hf => hreached f ?_, sighted _ hsource, fun f hf next hnext => ?_⟩
        · rw [hexpanded, List.mem_cons]
          grind
        · simp only [List.mem_append, List.mem_cons] at hf ⊢
          tauto
        · -- a file that was not read leads nowhere
          rcases List.mem_cons.1 hf with rfl | hf
          · have nothing : directivesOf table.entries f = [] := by
              rw [directivesOf, ← Path.Table.get?, unknown]
              rfl
            cases hnext with
            | beside hd => simp [nothing] at hd
            | indexed hd => simp [nothing] at hd
          · exact sighted _ (hfollowed f hf next hnext)
      · have leads : ∀ next, next ∈ Standing.followed isFile index (file, directives) ↔
            Leads isFile index table.entries file next :=
          fun next => mem_followed (directivesOf_of_get? read)
        rw [hround] at sighted ⊢
        refine ⟨fun f => ?_, ?_, fun f hf => ?_, sighted _ hsource, fun f hf next hnext => ?_⟩
        · rw [List.mem_append, List.mem_singleton, hexpanded, List.mem_cons]
          grind
        · -- an expansion of the same place would have made the file visited
          refine List.pairwise_append.2 ⟨honce, List.pairwise_singleton .., fun f hf g hg same => ?_⟩
          refine fresh ?_
          rw [List.mem_singleton.1 hg] at same
          exact ⟨f, ((hexpanded f).1 hf).1, same⟩
        · have start := hreached file List.mem_cons_self
          simp only [List.mem_append, List.mem_cons] at hf
          rcases hf with (hf | hf) | rfl | hf
          · exact hreached f (by simp [hf])
          · exact start.step ((leads f).1 hf)
          · exact start
          · exact hreached f (by simp [hf])
        · rcases List.mem_cons.1 hf with rfl | hf
          · exact .inl (List.mem_append_right _ ((leads next).2 hnext))
          · exact sighted _ (hfollowed f hf next hnext)

/-- When the queue is empty, all that is reached was taken. -/
theorem Sound.visited_of_reach (h : s.Sound isFile index table source) (ended : s.queue = []) {f : Path}
    (reached : Reach isFile index table.entries [source] f) : s.Visited f := by
  have taken : ∀ f, s.Sighted f → s.Visited f := by
    rintro f (waits | visited)
    · rw [ended] at waits
      cases waits
    · exact visited
  induction reached with
  | start hf => exact taken _ (List.mem_singleton.1 hf ▸ h.source)
  | step _ hnext ih =>
      obtain ⟨g, hg, place⟩ := ih
      exact taken _ (h.followed g hg _ (hnext.congr place.symm))

/-! ## A whole walk -/

section Walk

variable (isFile index table source)

theorem after_succ (k : Nat) : after isFile index table source (k + 1) =
    (after isFile index table source k).round isFile index table :=
  Function.iterate_succ_apply' ..

theorem sound_after (k : Nat) : (after isFile index table source k).Sound isFile index table source := by
  induction k with
  | zero => exact sound_start
  | succ k ih => exact after_succ isFile index table source k ▸ ih.round

theorem walk_after (k : Nat) :
    walk isFile index (unread table (after isFile index table source k).visited)
        (after isFile index table source k).names (after isFile index table source k).queue =
      unresolved isFile index table source := by
  induction k with
  | zero => exact congrArg (walk isFile index · [] [source]) unread_nil
  | succ k ih => rw [after_succ, walk_round, ih]

theorem queue_after_of_le {k m : Nat} (h : k ≤ m) (ended : (after isFile index table source k).queue = []) :
    (after isFile index table source m).queue = [] := by
  induction h with
  | refl => exact ended
  | step _ ih => rw [after_succ, round_of_nil ih, ih]

theorem remaining_after {k : Nat} (goesOn : ∀ j < k, (after isFile index table source j).queue ≠ []) :
    (after isFile index table source k).remaining isFile index table + k =
      1 + (table.entries.map fun e => (followed isFile index e).length).sum := by
  induction k with
  | zero =>
      exact congrArg (fun left => 1 + (left.map fun e => (followed isFile index e).length).sum)
        unread_nil
  | succ k ih =>
      have before := ih fun j hj => goesOn j (Nat.lt_succ_of_lt hj)
      have counted := @remaining_round isFile index table _ (goesOn k (Nat.lt_succ_self k))
      rw [after_succ]
      omega

theorem exists_after_queue_eq_nil :
    ∃ k ≤ 1 + (table.entries.map fun e => (followed isFile index e).length).sum,
      (after isFile index table source k).queue = [] := by
  by_contra goesOn
  push Not at goesOn
  have counted := remaining_after isFile index table source
    (k := 1 + (table.entries.map fun e => (followed isFile index e).length).sum)
    fun j hj => goesOn j hj.le
  have last := goesOn _ le_rfl
  have some := List.length_pos_of_ne_nil last
  rw [remaining] at counted
  omega

theorem countP_same_le_one {files : List Path} (apart : files.Pairwise fun f g => f.components ≠ g.components)
    (f : Path) : files.countP (·.same f) ≤ 1 := by
  induction files with
  | nil => simp
  | cons g files ih =>
      obtain ⟨hg, hfiles⟩ := List.pairwise_cons.1 apart
      rw [List.countP_cons]
      split
      · next same =>
          have others : files.countP (·.same f) = 0 := by
            refine List.countP_eq_zero.2 fun g' hg' same' => hg g' hg' ?_
            exact (Path.same_iff.1 same).trans (Path.same_iff.1 same').symm
          omega
      · exact ih hfiles

/-- A walk comes to its end, whatever cycles there are and however many files answer to
    a name: there are at most as many rounds as all files together have steps to others,
    and one more for the source. It ends with the names that need search directories, and
    on the way no file is expanded more than once; in the end just those are expanded that
    were read and are reached. -/
theorem exists_rounds :
    ∃ n ≤ 1 + (table.entries.map fun e => (followed isFile index e).length).sum,
      (∀ k, (after isFile index table source k).queue = [] ↔ n ≤ k) ∧
      (after isFile index table source n).names = unresolved isFile index table source ∧
      (∀ k f, (after isFile index table source k).expanded.countP (·.same f) ≤ 1) ∧
      ∀ f, (∃ g ∈ (after isFile index table source n).expanded, g.components = f.components) ↔
        (table.get? f).isSome ∧
          ∃ g, Reach isFile index table.entries [source] g ∧ g.components = f.components := by
  classical
  obtain ⟨m, hm, ended⟩ := exists_after_queue_eq_nil isFile index table source
  have ends : ∃ k, (after isFile index table source k).queue = [] := ⟨m, ended⟩
  have last : (after isFile index table source (Nat.find ends)).queue = [] := Nat.find_spec ends
  refine ⟨Nat.find ends, (Nat.find_min' ends ended).trans hm, fun k => ?_, ?_, fun k f => ?_, fun f => ?_⟩
  · exact ⟨Nat.find_min' ends, fun le => queue_after_of_le isFile index table source le last⟩
  · have all := walk_after isFile index table source (Nat.find ends)
    rwa [last, walk] at all
  · exact countP_same_le_one (sound_after isFile index table source k).once f
  · have sound := sound_after isFile index table source (Nat.find ends)
    constructor
    · rintro ⟨g, hg, place⟩
      obtain ⟨taken, read⟩ := (sound.expanded g).1 hg
      refine ⟨?_, g, sound.reached g (List.mem_append_right _ taken), place⟩
      rwa [← get?_congr place]
    · rintro ⟨read, g, reached, place⟩
      obtain ⟨h, hh, same⟩ := sound.visited_of_reach last reached
      refine ⟨h, (sound.expanded h).2 ⟨hh, ?_⟩, same.trans place⟩
      rwa [get?_congr (same.trans place)]

/-- Two files that ask for each other, and one of them for itself. -/
example :
    let table : DirectiveTable :=
      .ofList [(⟨"/p/a.h"⟩, [⟨"b.h", true⟩, ⟨"c.h", false⟩]), (⟨"/p/b.h"⟩, [⟨"a.h", true⟩, ⟨"b.h", true⟩])]
    let last := after (fun _ => true) .empty table ⟨"/p/a.h"⟩ 4
    last.queue = [] ∧ last.expanded = [⟨"/p/a.h"⟩, ⟨"/p/b.h"⟩] ∧ last.names = ["c.h"] := by
  decide +kernel

end Walk

end Standing

end CompileTree.Include
