import CompileTree.Files.Change
import CompileTree.Proofs.Files.Walk
import CompileTree.Proofs.Path.Components
import Mathlib

/-! # What changes leave as it is

A directory is made where nothing stands, and a file is written where a file or nothing
stands. So every directory and every link stays where it is (`KeepsWays`), and whatever
a path led to before it leads to afterwards. A series of changes that makes a directory
makes nothing but directories, at places to which beginnings of its path lead.
-/

namespace CompileTree.Files

namespace Tree

/-! ## Trees that keep what stands -/

/-- Nothing that stands in a tree is gone or changed in another one. -/
structure Keeps (t t' : Tree) : Prop where
  entry : ∀ {l e}, t.get? l = some e → t'.get? l = some e
  attributes : t'.attributes = t.attributes

variable {t t' t'' : Tree} {working l : Location} {p : Path} {e : Entry} {bytes : ByteArray}
  {above : List Path.Component}

theorem Keeps.refl (t : Tree) : t.Keeps t := ⟨id, rfl⟩

theorem Keeps.trans (h : t.Keeps t') (h' : t'.Keeps t'') : t.Keeps t'' :=
  ⟨fun standing => h'.entry (h.entry standing), h'.attributes.trans h.attributes⟩

/-- What is put where nothing stands takes nothing away. -/
theorem keeps_put (free : t.get? l = none) : t.Keeps (t.put l e) := by
  have notRoot : l ≠ [] := by
    rintro rfl
    cases free
  refine ⟨fun {k f} standing => ?_, rfl⟩
  rw [get?_put t l k e notRoot, if_neg]
  · exact standing
  · rintro rfl
    rw [free] at standing
    cases standing

/-- A path that is followed up to its last name leads to the same place when more
    stands in the tree. -/
theorem Keeps.follow (h : t.Keeps t') {links : Nat} {directory : Location} {todo : List String}
    (ok : t.follow false links directory todo = .ok l) :
    t'.follow false links directory todo = .ok l := by
  fun_induction Tree.follow t false links directory todo with
  | case1 => rw [Tree.follow, ok]
  | case2 _ _ _ ih => rw [Tree.follow, if_pos rfl, ih ok]
  | case3 _ _ _ notHere ih => rw [Tree.follow, if_neg notHere, if_pos rfl, ih ok]
  | case5 _ _ _ _ notHere notUp short standing ih =>
      rw [Tree.follow, if_neg notHere, if_neg notUp, if_neg short, h.entry standing]
      exact ih ok
  | case6 _ _ _ notHere notUp short | case8 _ _ _ notHere notUp short
  | case10 _ _ _ notHere notUp short => rw [follow_last notHere notUp short, ok]
  | case12 _ _ _ _ notHere notUp short _ _ last =>
      obtain ⟨rfl, -⟩ := last
      rw [follow_last notHere notUp short, ok]
  | case15 _ _ _ notHere notUp short _ standing notLast _ some ih =>
      rw [Tree.follow, if_neg notHere, if_neg notUp, if_neg short, h.entry standing]
      simp only [if_neg notLast, if_neg some]
      exact ih ok
  | case4 | case7 | case9 | case11 | case13 | case14 => cases ok

theorem Keeps.locate (h : t.Keeps t') (ok : t.locate working false p = .ok l) :
    t'.locate working false p = .ok l := by
  rw [Tree.locate, resolve] at ok ⊢
  split at ok
  · cases ok
  · split at ok
    · cases ok
    · split at ok
      · cases ok
      · next h1 h2 h3 => rw [if_neg h1, if_neg h2, if_neg h3, h.follow ok]

/-- Every directory and every link of a tree stands in another one too. -/
structure KeepsWays (t t' : Tree) : Prop where
  directory : ∀ {l}, t.get? l = some .directory → t'.get? l = some .directory
  link : ∀ {l target}, t.get? l = some (.link target) → t'.get? l = some (.link target)

theorem Keeps.ways (h : t.Keeps t') : t.KeepsWays t' := ⟨h.entry, h.entry⟩

/-- What is put in place of a file, or where nothing stands, is in nobody's way. -/
theorem keepsWays_put (notDirectory : t.get? l ≠ some .directory)
    (notLink : ∀ target, t.get? l ≠ some (.link target)) : t.KeepsWays (t.put l e) := by
  have notRoot : l ≠ [] := by
    rintro rfl
    exact notDirectory rfl
  constructor
  · intro k standing
    rw [get?_put t l k e notRoot, if_neg]
    · exact standing
    · rintro rfl
      exact notDirectory standing
  · intro k target standing
    rw [get?_put t l k e notRoot, if_neg]
    · exact standing
    · rintro rfl
      exact notLink target standing

theorem follow_last_of_not_link {followLast : Bool} {links : Nat} {directory : Location} {name : String}
    (notHere : name ≠ ".") (notUp : name ≠ "..") (short : ¬ nameLimit < name.utf8ByteSize)
    (notLink : ∀ target, t.get? (directory ++ [name]) ≠ some (.link target)) :
    t.follow followLast links directory [name] = .ok (directory ++ [name]) := by
  rw [Tree.follow, if_neg notHere, if_neg notUp, if_neg short]
  split <;> simp_all [Tree.follow]

/-- Where the ways stay as they are, a path leads where it led, unless a link was put there. -/
theorem KeepsWays.follow (h : t.KeepsWays t') (notLink : ∀ target, t'.get? l ≠ some (.link target))
    {followLast : Bool} {links : Nat} {directory : Location} {todo : List String}
    (ok : t.follow followLast links directory todo = .ok l) :
    t'.follow true links directory todo = .ok l := by
  fun_induction Tree.follow t followLast links directory todo with
  | case1 => rw [Tree.follow, ok]
  | case2 _ _ _ ih => rw [Tree.follow, if_pos rfl, ih ok]
  | case3 _ _ _ notHere ih => rw [Tree.follow, if_neg notHere, if_pos rfl, ih ok]
  | case5 _ _ _ _ notHere notUp short standing ih =>
      rw [Tree.follow, if_neg notHere, if_neg notUp, if_neg short, h.directory standing]
      exact ih ok
  | case6 _ _ _ notHere notUp short | case8 _ _ _ notHere notUp short
  | case10 _ _ _ notHere notUp short =>
      cases ok
      exact follow_last_of_not_link notHere notUp short notLink
  | case12 _ _ _ _ _ _ _ _ standing =>
      cases ok
      exact absurd (h.link standing) (notLink _)
  | case15 _ _ _ notHere notUp short _ standing _ _ some ih =>
      rw [Tree.follow, if_neg notHere, if_neg notUp, if_neg short, h.link standing]
      simp only [if_neg some, Bool.not_true, Bool.false_eq_true, and_false, if_false]
      exact ih ok
  | case4 | case7 | case9 | case11 | case13 | case14 => cases ok

theorem KeepsWays.locate (h : t.KeepsWays t') (notLink : ∀ target, t'.get? l ≠ some (.link target))
    {followLast : Bool} (ok : t.locate working followLast p = .ok l) :
    t'.locate working true p = .ok l := by
  obtain ⟨noNul, nonempty, followed, short⟩ := follow_of_locate ok
  rw [locate_of_follow noNul short nonempty, h.follow notLink followed]

/-! ## Single changes -/

theorem create_eq_ok (h : t.create working p = .ok (l, t')) :
    t.locate working false p = .ok l ∧ t.get? l = none ∧ t' = t.put l (.file .empty false) := by
  rw [create] at h
  cases located : t.locate working false p with
  | error e =>
      rw [located] at h
      cases h
  | ok place =>
      rw [located] at h
      simp only [bind, Except.bind] at h
      split at h
      · cases h
      · next free =>
          split at h
          · cases h
          · cases h
            exact ⟨rfl, free, rfl⟩

/-- Following names never fails because something is there already. -/
theorem follow_ne_alreadyExists {followLast : Bool} {links : Nat} {todo : List String} :
    t.follow followLast links l todo ≠ .error .alreadyExists := by
  fun_induction follow t followLast links l todo <;> simp_all

theorem locate_ne_alreadyExists {followLast : Bool} :
    t.locate working followLast p ≠ .error .alreadyExists := by
  rw [locate, resolve]
  split
  · simp
  · split
    · simp
    · split
      · simp
      · exact follow_ne_alreadyExists

/-- A file is refused as being there already only where something stands. -/
theorem create_eq_alreadyExists (h : t.create working p = .error .alreadyExists) :
    ∃ l e, t.locate working false p = .ok l ∧ t.get? l = some e := by
  rw [create] at h
  cases located : t.locate working false p with
  | error e =>
      rw [located] at h
      cases h
      exact absurd located locate_ne_alreadyExists
  | ok place =>
      rw [located] at h
      simp only [bind, Except.bind] at h
      split at h
      · next standing => exact ⟨place, _, rfl, standing⟩
      · split at h <;> cases h

/-- Separators at the end of a path are no components of it. -/
theorem components_bare (h : bare p ≠ ⟨""⟩) : (bare p).components = p.components := by
  have dropped : ∀ cs : List Char, (cs.reverse.dropWhile (· == '/')).reverse ≠ [] →
      Path.componentsOf (cs.reverse.dropWhile (· == '/')).reverse = Path.componentsOf cs := by
    intro cs
    induction cs using List.reverseRecOn with
    | nil => exact fun nonempty => absurd rfl nonempty
    | append_singleton cs c ih =>
        rw [List.reverse_append, List.reverse_singleton, List.singleton_append, List.dropWhile_cons]
        split
        · next slash =>
            obtain rfl := eq_of_beq slash
            intro nonempty
            have some : cs ≠ [] := by
              rintro rfl
              exact nonempty rfl
            rw [ih nonempty, Path.componentsOf_append_slash some]
        · simp
  have some : (p.chars.reverse.dropWhile (· == '/')).reverse ≠ [] := by
    intro none
    exact h (by rw [bare, none])
  rw [Path.components, bare, Path.chars, String.toList_ofList]
  exact dropped p.chars some

/-- A directory is made where nothing stands; the path without separators at its end
    leads there. -/
theorem makeDirectory_eq_ok (h : t.makeDirectory working p = .ok t') :
    ∃ l, t.get? l = none ∧ t' = t.put l .directory ∧
      ∃ q : Path, q.components = p.components ∧ t.locate working false q = .ok l := by
  rw [makeDirectory] at h
  cases located : t.placeFor working p with
  | error e =>
      rw [located] at h
      cases h
  | ok l =>
      rw [located] at h
      simp only [bind, Except.bind] at h
      split at h
      · cases h
      · next free =>
          split at h
          · cases h
          · cases h
            refine ⟨l, free, rfl, ?_⟩
            rw [placeFor] at located
            split at located
            · split at located
              · cases located
                cases free
              · next nonempty => exact ⟨bare p, components_bare nonempty, located⟩
            · exact ⟨p, rfl, located⟩

theorem makeDirectory_of_entry (closed : endsOpen p = false) (leads : t.entry working false p = .ok (l, e)) :
    t.makeDirectory working p = .error .alreadyExists := by
  obtain ⟨located, standing⟩ := entry_eq_ok.1 leads
  rw [makeDirectory, placeFor, closed, if_neg Bool.false_ne_true, located]
  simp only [bind, Except.bind, standing]
  rfl

/-- Bytes are written to a device, which keeps nothing, or to a file, which is made if
    nothing stands where the path leads. -/
theorem write_eq_ok (h : t.write working p bytes = .ok t') :
    ∃ l, t.locate working true p = .ok l ∧
      ((∃ d, t.get? l = some (.device d)) ∧ t' = t ∨
        ∃ executable, (t.get? l = none ∧ executable = false ∨ ∃ old, t.get? l = some (.file old executable)) ∧
          t' = t.put l (.file bytes executable)) := by
  rw [write] at h
  split at h
  · cases placed : t.placeFor working p <;> rw [placed] at h <;> cases h
  · cases located : t.locate working true p with
    | error e =>
        rw [located] at h
        cases h
    | ok l =>
        rw [located] at h
        simp only [bind, Except.bind, pure, Except.pure] at h
        refine ⟨l, rfl, ?_⟩
        split at h
        · next old executable standing =>
            cases h
            exact .inr ⟨executable, .inr ⟨old, standing⟩, rfl⟩
        · next d standing =>
            split at h
            · cases h
              exact .inl ⟨⟨d, standing⟩, rfl⟩
            · cases h
        · cases h
        · next free =>
            split at h
            · cases h
            · cases h
              exact .inr ⟨false, .inl ⟨free, rfl⟩, rfl⟩

/-! ## Making way -/

/-- A place is as it was, or it holds a new directory, to which a beginning of a path
    leads. -/
def KeptOrMade (working : Location) (above : List Path.Component) (t t' : Tree) (l : Location) : Prop :=
  t'.get? l = t.get? l ∨
    t.get? l = none ∧ ∃ q : Path, q.components <+: above ∧ t'.entry working true q = .ok (l, .directory)

/-- Nothing but directories is new, and to each of them a beginning of a path leads. -/
structure MakesWay (working : Location) (above : List Path.Component) (t t' : Tree) : Prop where
  kept : ∀ l, KeptOrMade working above t t' l
  attributes : t'.attributes = t.attributes

theorem MakesWay.refl (t : Tree) : MakesWay working above t t := ⟨fun _ => .inl rfl, rfl⟩

theorem MakesWay.keeps (h : MakesWay working above t t') : t.Keeps t' := by
  refine ⟨fun {l e} standing => ?_, h.attributes⟩
  rcases h.kept l with same | ⟨free, -⟩
  · rw [same, standing]
  · rw [free] at standing
    cases standing

/-- A new directory stays one where the ways stay as they are. -/
theorem KeptOrMade.mono (h : KeptOrMade working above t t' l) (ways : t'.KeepsWays t'')
    (same : t''.get? l = t'.get? l) : KeptOrMade working above t t'' l := by
  rcases h with kept | ⟨free, q, hq, leads⟩
  · exact .inl (same.trans kept)
  · obtain ⟨located, standing⟩ := entry_eq_ok.1 leads
    have standing : t''.get? l = some .directory := same.trans standing
    refine .inr ⟨free, q, hq, entry_eq_ok.2 ⟨ways.locate (by simp [standing]) located, standing⟩⟩

theorem MakesWay.trans (h : MakesWay working above t t') (h' : MakesWay working above t' t'') :
    MakesWay working above t t'' := by
  refine ⟨fun l => ?_, h'.attributes.trans h.attributes⟩
  rcases h'.kept l with same | ⟨free, made⟩
  · exact (h.kept l).mono h'.keeps.ways same
  · refine .inr ⟨?_, made⟩
    cases standing : t.get? l with
    | none => rfl
    | some e =>
        rw [h.keeps.entry standing] at free
        cases free

/-- One directory is made to which a beginning of a path leads. -/
def MakesDirectory (working : Location) (above : List Path.Component) (t t' : Tree) : Prop :=
  ∃ p : Path, p.components <+: above ∧ t.makeDirectory working p = .ok t'

theorem MakesDirectory.makesWay (h : MakesDirectory working above t t') :
    MakesWay working above t t' := by
  obtain ⟨p, hp, made⟩ := h
  obtain ⟨l, free, rfl, q, same, located⟩ := makeDirectory_eq_ok made
  have notRoot : l ≠ [] := by
    rintro rfl
    cases free
  have here : (t.put l .directory).get? l = some .directory :=
    (get?_put t l l .directory notRoot).trans (if_pos rfl)
  refine ⟨fun k => ?_, rfl⟩
  by_cases own : k = l
  · subst own
    have keeps : t.Keeps (t.put k .directory) := keeps_put free
    have leads := keeps.ways.locate (by simp [here]) located
    exact .inr ⟨free, q, same ▸ hp, entry_eq_ok.2 ⟨leads, here⟩⟩
  · exact .inl ((get?_put t l k .directory notRoot).trans (if_neg own))

theorem makesWay_of_reflTransGen (h : Relation.ReflTransGen (MakesDirectory working above) t t') :
    MakesWay working above t t' := by
  induction h with
  | refl => exact .refl t
  | tail _ step ih => exact ih.trans step.makesWay

/-- A file to which a path leads holds given bytes, and may be run if it could be before.
    Besides it nothing but directories on the way there is new. -/
def Stores (working : Location) (p : Path) (bytes : ByteArray) (t t' : Tree) : Prop :=
  ∃ l executable, t'.entry working true p = .ok (l, .file bytes executable) ∧
    (t.get? l = none ∧ executable = false ∨ ∃ old, t.get? l = some (.file old executable)) ∧
    t'.attributes = t.attributes ∧ ∀ k ≠ l, KeptOrMade working p.directory.components t t' k

/-- Bytes that are written once the way is made are kept, or go to a device. -/
theorem MakesWay.write (way : MakesWay working p.directory.components t t')
    (h : t'.write working p bytes = .ok t'') :
    Stores working p bytes t t'' ∨
      (∃ l d, t''.entry working true p = .ok (l, .device d)) ∧
        MakesWay working p.directory.components t t'' := by
  obtain ⟨l, located, ⟨⟨d, standing⟩, rfl⟩ | ⟨executable, before, rfl⟩⟩ := write_eq_ok h
  · exact .inr ⟨⟨l, d, entry_eq_ok.2 ⟨located, standing⟩⟩, way⟩
  · have notDirectory : t'.get? l ≠ some .directory := by
      rcases before with ⟨free, -⟩ | ⟨old, standing⟩ <;> simp [*]
    have ways : t'.KeepsWays (t'.put l (.file bytes executable)) := by
      refine keepsWays_put notDirectory ?_
      rcases before with ⟨free, -⟩ | ⟨old, standing⟩ <;> simp [*]
    have notRoot : l ≠ [] := by
      rintro rfl
      exact notDirectory rfl
    have here := (get?_put t' l l (.file bytes executable) notRoot).trans (if_pos rfl)
    -- Where the file is written no directory was made.
    have same : t'.get? l = t.get? l := by
      refine (way.kept l).resolve_right ?_
      rintro ⟨-, q, -, leads⟩
      exact notDirectory (entry_eq_ok.1 leads).2
    refine .inl ⟨l, executable, entry_eq_ok.2 ⟨ways.locate (by simp [here]) located, here⟩, same ▸ before,
      way.attributes, fun k other => ?_⟩
    exact (way.kept k).mono ways ((get?_put t' l k _ notRoot).trans (if_neg other))

end Tree

/-! ## Series of changes -/

/-- What a series of steps comes to: the first that fails ends it. -/
theorem run_bind_cases {ε σ α β : Type} {x : ExceptT ε (StateM σ) α} {f : α → ExceptT ε (StateM σ) β}
    {s s' : σ} {result : Except ε β} (h : (x >>= f).run.run s = (result, s')) :
    (∃ a between, x.run.run s = (.ok a, between) ∧ (f a).run.run between = (result, s')) ∨
      ∃ e, x.run.run s = (.error e, s') ∧ result = .error e := by
  rw [ExceptT.run_bind, StateT.run_bind] at h
  cases first : x.run.run s with
  | mk outcome between =>
      rw [first] at h
      cases outcome with
      | ok a => exact .inl ⟨a, between, rfl, h⟩
      | error e =>
          cases h
          exact .inr ⟨e, rfl, rfl⟩

/-- A single change that fails leaves the tree as it was. -/
theorem run_change (f : Tree → Except Error Tree) (t : Tree) :
    (change f).run.run t =
      match f t with
      | .ok t' => (.ok (), t')
      | .error e => (.error e, t) := by
  have got : (change f).run.run t = ((match f t with
      | .ok t' => set t'
      | .error e => throw e : Change Unit).run.run t) := rfl
  rw [got]
  cases f t <;> rfl

variable {t t' : Tree} {working : Location} {p : Path} {result : Except Error Unit}

theorem files_settle {e : Error} (ran : (settle working p e).run.run t = (result, t')) : t' = t := by
  rcases run_bind_cases ran with ⟨a, between, hget, ran⟩ | ⟨e, hget, -⟩
  · cases hget
    split at ran <;> (cases ran; rfl)
  · cases hget

/-- A directory that is there need not be made. -/
theorem run_makeDirectories_of_isDirectory (nonblank : p.text ≠ "")
    (standing : t.makeDirectory working p = .error .alreadyExists) (there : t.isDirectory working p = true) :
    (makeDirectories working p).run.run t = (.ok (), t) := by
  cases ran : (makeDirectories working p).run.run t with
  | mk result t' =>
      rw [makeDirectories, makeDirectoriesWithin, if_neg nonblank] at ran
      rcases run_bind_cases ran with ⟨_, _, hget, ran⟩ | ⟨e, hget, -⟩
      · cases hget
        rw [standing] at ran
        rcases run_bind_cases ran with ⟨_, _, hget, ran⟩ | ⟨e, hget, -⟩
        · cases hget
          rw [if_pos there] at ran
          exact ran.symm
        · cases hget
      · cases hget

/-- Whatever comes of making a directory with all that lead to it, it is made of single
    changes, each of which makes a directory at a beginning of the path. -/
theorem steps_makeDirectories {above : List Path.Component} {fuel : Nat} (within : p.components <+: above)
    (ran : (makeDirectoriesWithin working fuel p).run.run t = (result, t')) :
    Relation.ReflTransGen (Tree.MakesDirectory working above) t t' := by
  induction fuel generalizing p t t' result with
  | zero =>
      cases ran
      exact .refl
  | succ fuel ih =>
      rw [makeDirectoriesWithin] at ran
      split at ran
      · cases ran
        exact .refl
      · rcases run_bind_cases ran with ⟨a, between, hget, ran⟩ | ⟨e, hget, -⟩
        · cases hget
          split at ran
          · next made =>
              cases ran
              exact .single ⟨p, within, made⟩
          · split at ran
            · cases ran
              exact .refl
            · next parent hparent =>
                have higher : parent.components <+: above := by
                  have isDirectory : parent = p.directory := by
                    rw [Path.directory, hparent, Option.getD_some]
                  rw [isDirectory, Path.components_directory]
                  exact (List.dropLast_prefix _).trans within
                rcases run_bind_cases ran with ⟨_, middle, hparents, ran⟩ | ⟨e, hparents, -⟩
                · have parents := ih higher hparents
                  rcases run_bind_cases ran with ⟨a, between', hget, ran⟩ | ⟨e, hget, -⟩
                  · cases hget
                    split at ran
                    · next made =>
                        cases ran
                        exact parents.tail ⟨p, within, made⟩
                    · rw [files_settle ran]
                      exact parents
                  · cases hget
                · exact ih higher hparents
          · rw [files_settle ran]
        · cases hget

end CompileTree.Files
