import CompileTree.Proofs.Glob.Language
import CompileTree.Proofs.Path.Ancestry

/-! # A glob and everything below it

A rule applies to what its glob covers and to all below. The glob continued by
`/**` does not say quite that: behind several stars the separator belongs to their
run. Together with the glob itself it does, for every absolute glob.
-/

namespace CompileTree.Glob

open CompileTree.Path

/-- With how many stars a pattern ends, `stars` of which were read before it. -/
def endStars (stars : Nat) : List Char → Nat
  | [] => stars
  | c :: cs => if c = '*' then endStars (stars + 1) cs else endStars 0 cs

theorem endStars_cons (n : Nat) (c : Char) (p : List Char) :
    endStars n (c :: p) = if c = '*' then endStars (n + 1) p else endStars 0 p := rfl

/-- Only the stars at its end make a difference to how a pattern is continued. -/
theorem scan_append (n : Nat) (p : List Char) :
    ∃ front, scan n p = front ++ ofStars (endStars n p) ∧
      ∀ rest, scan n (p ++ rest) = front ++ scan (endStars n p) rest := by
  induction p generalizing n with
  | nil => exact ⟨[], rfl, fun _ => rfl⟩
  | cons c p ih =>
      by_cases star : c = '*'
      · obtain ⟨front, hfront, hrest⟩ := ih (n + 1)
        refine ⟨front, ?_, fun rest => ?_⟩
        · rw [scan, endStars_cons, if_pos star, if_pos star, hfront]
        · rw [List.cons_append, scan, endStars_cons, if_pos star, if_pos star, hrest]
      · obtain ⟨front, hfront, hrest⟩ := ih 0
        rw [endStars_cons, if_neg star]
        simp only [List.cons_append, scan, if_neg star, hfront, hrest]
        split
        · exact ⟨.directories :: front, rfl, fun _ => rfl⟩
        · exact ⟨ofStars n ++ (if c = '?' then .single else .literal c) :: front, by simp, by simp⟩

theorem endStars_pos {n : Nat} {p : List Char} (h : p.getLast? = some '*') : 0 < endStars n p := by
  induction p generalizing n with
  | nil => cases h
  | cons c p ih =>
      rw [endStars_cons]
      by_cases last : p = []
      · subst last
        obtain rfl : c = '*' := by simpa using h
        exact Nat.succ_pos n
      · obtain ⟨d, ds, rfl⟩ := List.exists_cons_of_ne_nil last
        rw [List.getLast?_cons_cons] at h
        split <;> exact ih h

theorem endStars_of_notMem {p : List Char} (h : '*' ∉ p) : endStars 0 p = 0 := by
  induction p with
  | nil => rfl
  | cons c p ih =>
      rw [List.mem_cons, not_or] at h
      rw [endStars_cons, if_neg (Ne.symm h.1), ih h.2]

/-- A glob without wildcards covers itself. -/
theorem covers_iff_eq {p s : List Char} (noStar : '*' ∉ p) (noQuestion : '?' ∉ p) :
    Covers p s ↔ s = p := by
  constructor
  · intro h
    induction h with
    | done => rfl
    | plain _ _ _ ih => rw [ih (by simp_all) (by simp_all)]
    | single => simp at noQuestion
    | star => simp at noStar
    | @directories n _ _ _ several => exact absurd (by simp; omega) noStar
    | @stars n _ _ _ several => exact absurd (by simp; omega) noStar
  · rintro rfl
    induction s with
    | nil => exact .done
    | cons c s ih =>
        rw [List.mem_cons, not_or] at noStar noQuestion
        exact .plain (Ne.symm noStar.1) (Ne.symm noQuestion.1) (ih noStar.2 noQuestion.2)

theorem covers_slash_cons {p s : List Char} :
    Covers ('/' :: p) s ↔ ∃ t, s = '/' :: t ∧ Covers p t := by
  have places : scan 0 ('/' :: p) = .literal '/' :: scan 0 p := by simp [scan, ofStars]
  rw [← denotes_scan_iff, places]
  constructor
  · rintro ⟨_, t, rfl, rfl, ht⟩
    exact ⟨t, rfl, denotes_scan_iff.1 ht⟩
  · rintro ⟨t, rfl, ht⟩
    exact ⟨['/'], t, rfl, rfl, denotes_scan_iff.2 ht⟩

/-- Two stars stand for any text, together with the stars next to them. -/
theorem covers_stars_between (a run b : List Char) :
    Covers (a ++ '*' :: '*' :: b) (a ++ (run ++ b)) := by
  obtain ⟨front, hfront, hrest⟩ := scan_append 0 a
  have itself := denotes_scan_iff.2 (covers_self a)
  rw [hfront] at itself
  obtain ⟨u, v, hsplit, hu, -⟩ := denotes_append.1 itself
  have stars : scan (endStars 0 a) ('*' :: '*' :: b) = scan (endStars 0 a + 2) b := by
    simp [scan]
  rw [← denotes_scan_iff, hrest, stars]
  have behind : Denotes (scan (endStars 0 a + 2) b) (v ++ run ++ b) :=
    denotes_scan_self (denotes_singleton.2 trivial)
  exact denotes_append.2 ⟨u, v ++ run ++ b, by simp [hsplit], hu, behind⟩

/-- What covers the empty text ends with a star or with the separator behind stars. -/
theorem getLast?_of_covers_nil {p : List Char} (h : Covers p []) (nonempty : p ≠ [])
    (noSlash : p.getLast? ≠ some '/') : p.getLast? = some '*' := by
  generalize hs : ([] : List Char) = s at h
  induction h with
  | done => exact absurd rfl nonempty
  | plain => cases hs
  | single => cases hs
  | @star p run s _ _ _ ih =>
      obtain ⟨-, rfl⟩ := List.append_eq_nil_iff.1 hs.symm
      cases p with
      | nil => rfl
      | cons c p => exact ih (by simp) noSlash rfl
  | @directories n p run s _ _ _ ih =>
      obtain ⟨-, rfl⟩ := List.append_eq_nil_iff.1 hs.symm
      rw [List.getLast?_append_of_ne_nil _ (by simp)] at noSlash ⊢
      cases p with
      | nil => exact absurd rfl noSlash
      | cons c p => exact ih (by simp) noSlash rfl
  | @stars n p run s several _ _ _ ih =>
      obtain ⟨-, rfl⟩ := List.append_eq_nil_iff.1 hs.symm
      cases p with
      | nil =>
          obtain ⟨k, rfl⟩ := Nat.exists_eq_add_of_le' several
          simp [List.replicate_succ']
      | cons c p =>
          rw [List.getLast?_append_of_ne_nil _ (by simp)] at noSlash ⊢
          exact ih (by simp) noSlash rfl

/-! ## Runs of stars -/

/-- Several stars stand side by side in the pattern. -/
def HasSeveralStars (p : List Char) : Prop := ['*', '*'] <:+: p

instance (p : List Char) : Decidable (HasSeveralStars p) := inferInstanceAs (Decidable (_ <:+: _))

theorem hasSeveralStars_of_le {n : Nat} (several : 2 ≤ n) (p : List Char) :
    HasSeveralStars (List.replicate n '*' ++ p) := by
  obtain ⟨k, rfl⟩ := Nat.exists_eq_add_of_le' several
  exact ⟨[], List.replicate k '*' ++ p, by simp [List.replicate_succ]⟩

theorem HasSeveralStars.append_left {p : List Char} (h : HasSeveralStars p) (a : List Char) :
    HasSeveralStars (a ++ p) :=
  h.trans (List.suffix_append a p).isInfix

theorem hasSeveralStars_of_endStars {n : Nat} {p : List Char} (several : 2 ≤ endStars n p) :
    HasSeveralStars (List.replicate n '*' ++ p) := by
  induction p generalizing n with
  | nil => exact hasSeveralStars_of_le several []
  | cons c p ih =>
      rw [endStars_cons] at several
      split at several
      · next star =>
          subst star
          have longer := ih several
          rwa [List.replicate_succ', List.append_assoc] at longer
      · simpa using (ih several).append_left (List.replicate n '*' ++ [c])

theorem endStars_lt_two {p : List Char} (few : ¬ HasSeveralStars p) : endStars 0 p < 2 := by
  by_contra several
  exact few (hasSeveralStars_of_endStars (n := 0) (by omega))

/-- A separator behind at most one star stands for itself. -/
theorem covers_append_slash_iff {a b s : List Char} (few : endStars 0 a < 2) :
    Covers (a ++ '/' :: b) s ↔ ∃ u v, s = u ++ '/' :: v ∧ Covers a u ∧ Covers b v := by
  obtain ⟨front, hfront, hrest⟩ := scan_append 0 a
  have notSeveral : ¬ 2 ≤ endStars 0 a := by omega
  have behind : scan (endStars 0 a) ('/' :: b) = ofStars (endStars 0 a) ++ scan 0 ('/' :: b) := by
    simp [scan, notSeveral, ofStars]
  rw [← denotes_scan_iff, hrest, behind, ← List.append_assoc, ← hfront, denotes_append]
  simp only [denotes_scan_iff, covers_slash_cons]
  constructor
  · rintro ⟨u, _, rfl, hu, v, rfl, hv⟩
    exact ⟨u, v, rfl, hu, hv⟩
  · rintro ⟨u, v, rfl, hu, hv⟩
    exact ⟨u, _, rfl, hu, v, rfl, hv⟩

theorem count_slash_of_covers {p s : List Char} (few : ¬ HasSeveralStars p) (h : Covers p s) :
    s.count '/' = p.count '/' := by
  induction h with
  | done => rfl
  | @plain c p s _ _ _ ih =>
      rw [List.count_cons, List.count_cons, ih fun several => few (several.append_left [c])]
  | @single c p s notSlash _ ih =>
      rw [List.count_cons_of_ne notSlash, List.count_cons_of_ne (by decide),
        ih fun several => few (several.append_left ['?'])]
  | @star p run s _ noSlash _ ih =>
      rw [List.count_append, List.count_eq_zero_of_not_mem noSlash, Nat.zero_add,
        List.count_cons_of_ne (by decide), ih fun several => few (several.append_left ['*'])]
  | directories several => exact absurd (hasSeveralStars_of_le several _) few
  | stars several => exact absurd (hasSeveralStars_of_le several _) few

/-! ## Below a glob -/

section Tail

variable {p s : List Char}

/-- Behind several stars, everything below is covered already. -/
theorem covers_append_of_stars (several : 2 ≤ endStars 0 p) {y z : List Char} (h : Covers p y) :
    Covers p (y ++ z) := by
  obtain ⟨front, hfront, -⟩ := scan_append 0 p
  obtain ⟨k, hk⟩ := Nat.exists_eq_add_of_le' several
  rw [← denotes_scan_iff, hfront, hk] at h ⊢
  obtain ⟨u, v, rfl, hu, -⟩ := denotes_append.1 h
  exact denotes_append.2 ⟨u, v ++ z, by simp, hu, denotes_singleton.2 trivial⟩

theorem covers_below_of_stars (several : 2 ≤ endStars 0 p) :
    Covers (p ++ "/**".toList) s ↔ Covers p s := by
  obtain ⟨front, hfront, hrest⟩ := scan_append 0 p
  obtain ⟨k, hk⟩ := Nat.exists_eq_add_of_le' several
  have continued : scan (k + 2) "/**".toList = [.directories, .anything] := by
    simp [scan, ofStars]
  have anywhere : ∀ v, Denotes [.directories, .anything] v :=
    fun v => ⟨[], v, rfl, .inl rfl, denotes_singleton.2 trivial⟩
  rw [← denotes_scan_iff, ← denotes_scan_iff, hrest, hfront, hk, continued, denotes_append,
    denotes_append]
  constructor
  · rintro ⟨u, v, rfl, hu, -⟩
    exact ⟨u, v, rfl, hu, denotes_singleton.2 trivial⟩
  · rintro ⟨u, v, rfl, hu, -⟩
    exact ⟨u, v, rfl, hu, anywhere v⟩

/-- Elsewhere the continued glob covers what stands below something covered. -/
theorem covers_below_of_no_stars (few : endStars 0 p < 2) :
    Covers (p ++ "/**".toList) s ↔ ∃ y z, s = y ++ '/' :: z ∧ Covers p y := by
  have anything : ∀ z, Covers ['*', '*'] z := fun z => by simpa using covers_stars_between [] z []
  have continued : Covers (p ++ "/**".toList) s ↔
      ∃ y z, s = y ++ '/' :: z ∧ Covers p y ∧ Covers ['*', '*'] z := covers_append_slash_iff few
  simpa only [anything, and_true] using continued

/-- What covers the root itself covers every path one step below it. -/
theorem covers_step_of_covers_root {c : List Char} (few : endStars 0 p < 2)
    (ends : p.getLast? = some '*') (noSlash : '/' ∉ c) (h : Covers p ['/']) : Covers p ('/' :: c) := by
  obtain ⟨front, hfront, -⟩ := scan_append 0 p
  have one : endStars 0 p = 1 := by
    have := endStars_pos (n := 0) ends
    omega
  rw [← denotes_scan_iff, hfront, one] at h ⊢
  obtain ⟨u, v, split, hu, hv⟩ := denotes_append.1 h
  have noSlashEnd : '/' ∉ v := denotes_singleton.1 hv
  have atRoot : u = ['/'] := by
    cases u with
    | nil =>
        rw [List.nil_append] at split
        exact absurd (split ▸ List.mem_cons_self) noSlashEnd
    | cons d u =>
        obtain ⟨rfl, rest⟩ := List.cons_eq_cons.1 split
        obtain ⟨rfl, -⟩ := List.append_eq_nil_iff.1 rest.symm
        rfl
  exact denotes_append.2 ⟨u, c, by simp [atRoot], hu, denotes_singleton.2 noSlash⟩

end Tail

/-- A glob that covers the root covers a path one step below it. -/
theorem covers_step {glob : List (List Char)} {c : List Char} (hglob : Steps glob) (below : glob ≠ [])
    (few : endStars 0 (absoluteText glob) < 2) (noSlash : '/' ∉ c)
    (h : Covers (absoluteText glob) (absoluteText [])) :
    Covers (absoluteText glob) (absoluteText [c]) := by
  obtain ⟨t, atRoot, inside⟩ := covers_slash_cons.1 h
  obtain rfl : [] = t := (List.cons_eq_cons.1 atRoot).2
  have joined := intercalate_ne_nil hglob below
  have ends : (absoluteText glob).getLast? = some '*' := by
    rw [getLast?_absoluteText hglob below]
    exact getLast?_of_covers_nil inside joined (getLast?_intercalate hglob)
  have oneStep : absoluteText [c] = '/' :: c := by simp [absoluteText]
  rw [oneStep]
  exact covers_step_of_covers_root few ends noSlash h

/-- A glob that covers the root covers every path one step below it. -/
theorem covers_first_step {glob : List (List Char)} {c : List Char} (hglob : Steps glob)
    (below : glob ≠ []) (noSlash : '/' ∉ c) (h : Covers (absoluteText glob) (absoluteText [])) :
    Covers (absoluteText glob) (absoluteText [c]) := by
  by_cases several : 2 ≤ endStars 0 (absoluteText glob)
  · obtain ⟨z, hz⟩ := absoluteText_prefix [] [c]
    rw [List.nil_append] at hz
    exact hz ▸ covers_append_of_stars several h
  · exact covers_step hglob below (by omega) noSlash h

/-- Two stars below the root cover every absolute path. -/
theorem covers_stars_of_root (names : List (List Char)) :
    Covers (absoluteText ["**".toList]) (absoluteText names) := by
  simpa [absoluteText] using covers_stars_between ['/'] (['/'].intercalate names) []

/-- A glob and its continuation by `/**` together cover an absolute path when the
    glob covers that path or a directory above it. -/
theorem covers_or_below_iff {glob names : List (List Char)} (hglob : Steps glob) (hnames : Steps names) :
    (Covers (absoluteText (glob ++ ["**".toList])) (absoluteText names) ∨
        Covers (absoluteText glob) (absoluteText names)) ↔
      ∃ init more, names = init ++ more ∧ Covers (absoluteText glob) (absoluteText init) := by
  by_cases root : glob = []
  · subst root
    have atRoot : Covers (absoluteText []) (absoluteText []) := covers_slash_cons.2 ⟨[], rfl, .done⟩
    exact ⟨fun _ => ⟨[], names, rfl, atRoot⟩, fun _ => .inl (covers_stars_of_root names)⟩
  · have continued : absoluteText (glob ++ ["**".toList]) = absoluteText glob ++ "/**".toList :=
      absoluteText_append root (by simp)
    rw [continued]
    by_cases several : 2 ≤ endStars 0 (absoluteText glob)
    · rw [covers_below_of_stars several, or_self]
      constructor
      · exact fun h => ⟨names, [], by simp, h⟩
      · rintro ⟨init, more, rfl, h⟩
        obtain ⟨z, hz⟩ := absoluteText_prefix init more
        exact hz ▸ covers_append_of_stars several h
    · have few : endStars 0 (absoluteText glob) < 2 := by omega
      rw [covers_below_of_no_stars few]
      constructor
      · rintro (⟨y, z, cut, hy⟩ | h)
        · have below : y ≠ [] := by
            obtain ⟨t, rfl, -⟩ := covers_slash_cons.1 hy
            simp
          obtain ⟨init, more, split, -, -, rfl⟩ := absoluteText_eq_append hnames cut below
          exact ⟨init, more, split, hy⟩
        · exact ⟨names, [], by simp, h⟩
      · -- the root is covered only together with the first step below it
        have proper : ∀ init more, names = init ++ more → init ≠ [] →
            Covers (absoluteText glob) (absoluteText init) →
            (∃ y z, absoluteText names = y ++ '/' :: z ∧ Covers (absoluteText glob) y) ∨
              Covers (absoluteText glob) (absoluteText names) := by
          rintro init more rfl hinit h
          by_cases whole : more = []
          · subst whole
            rw [List.append_nil]
            exact .inr h
          · exact .inl ⟨absoluteText init, ['/'].intercalate more, absoluteText_append hinit whole, h⟩
        rintro ⟨init, more, rfl, h⟩
        match init, more with
        | [], [] => exact .inr h
        | [], c :: rest =>
            exact proper [c] rest rfl (by simp)
              (covers_first_step hglob root (hnames c (by simp)).1.1 h)
        | name :: init, more => exact proper (name :: init) more rfl (by simp) h

/-- Behind a directory whose name is not read as a run of directories, a glob covers what it
    covers below the root. -/
theorem covers_behind_iff {above glob names : List (List Char)} (habove : Steps above)
    (hglob : Steps glob) (hnames : Steps names) (some : names ≠ [])
    (few : ¬ HasSeveralStars (absoluteText above)) :
    (∃ init more, above ++ names = init ++ more ∧
        Covers (absoluteText (above ++ glob)) (absoluteText init)) ↔
      ∃ init more, names = init ++ more ∧ Covers (absoluteText glob) (absoluteText init) := by
  by_cases top : above = []
  · rw [top, List.nil_append, List.nil_append]
  by_cases root : glob = []
  · subst root
    refine ⟨fun _ => ⟨[], names, rfl, covers_self _⟩, fun _ => ⟨above, names, rfl, ?_⟩⟩
    rw [List.append_nil]
    exact covers_self _
  have joined : absoluteText (above ++ glob) = absoluteText above ++ '/' :: ['/'].intercalate glob :=
    absoluteText_append top root
  simp only [joined, covers_append_slash_iff (endStars_lt_two few)]
  constructor
  · rintro ⟨init, more, split, u, v, cut, hu, hv⟩
    have below : u ≠ [] := by
      obtain ⟨t, rfl, -⟩ := covers_slash_cons.1 hu
      simp
    have hinit : Steps init := Steps.left (split ▸ habove.append hnames)
    obtain ⟨first, rest, rfl, hfirst, hrest, rfl⟩ := absoluteText_eq_append hinit cut below
    -- without a run of stars the glob's beginning fixes how many steps it covers
    have depth := count_slash_of_covers few hu
    rw [count_slash_absoluteText hinit.left hfirst, count_slash_absoluteText habove top] at depth
    rw [List.append_assoc] at split
    obtain ⟨rfl, rfl⟩ := List.append_inj split depth.symm
    rw [absoluteText_append hfirst hrest] at cut
    exact ⟨rest, more, rfl, covers_slash_cons.2 ⟨v, List.append_cancel_left cut, hv⟩⟩
  · have behind : ∀ init more, names = init ++ more → init ≠ [] →
        Covers (absoluteText glob) (absoluteText init) →
        ∃ init more, above ++ names = init ++ more ∧ ∃ u v, absoluteText init = u ++ '/' :: v ∧
          Covers (absoluteText above) u ∧ Covers (['/'].intercalate glob) v := by
      rintro init more rfl hinit h
      obtain ⟨v, hv, inside⟩ := covers_slash_cons.1 h
      refine ⟨above ++ init, more, (List.append_assoc ..).symm, absoluteText above, v, ?_,
        covers_self _, inside⟩
      rw [absoluteText_append top hinit, hv]
    rintro ⟨init, more, split, h⟩
    match init, more with
    | [], [] => exact absurd split some
    | [], c :: rest =>
        have noSlash := (hnames c (by simp [split])).1.1
        exact behind [c] rest split (by simp) (covers_first_step hglob root noSlash h)
    | name :: init, more => exact behind (name :: init) more split (by simp) h

/-- Steps without wildcards cover themselves only. -/
theorem covers_absoluteText_iff_eq {glob names : List (List Char)} (hglob : Steps glob)
    (hnames : Steps names) (noStar : '*' ∉ absoluteText glob) (noQuestion : '?' ∉ absoluteText glob) :
    Covers (absoluteText glob) (absoluteText names) ↔ names = glob :=
  (covers_iff_eq noStar noQuestion).trans (absoluteText_inj hnames hglob)

/-- Behind a directory whose name is read as a run of directories, a glob also covers itself
    further down, behind any steps and the directory again. -/
theorem covers_further_down {dirs glob names : List (List Char)} (some : glob ≠ []) (deeper : names ≠ [])
    (several : HasSeveralStars (absoluteText dirs)) :
    Covers (absoluteText (dirs ++ glob)) (absoluteText (dirs ++ (names ++ (dirs ++ glob)))) := by
  have below : dirs ≠ [] := by
    rintro rfl
    exact absurd several (by decide)
  obtain ⟨a, b, hab⟩ := several
  have again : absoluteText (dirs ++ (names ++ (dirs ++ glob))) =
      absoluteText dirs ++ (absoluteText names ++ (absoluteText dirs ++ absoluteText glob)) := by
    rw [absoluteText_append below (by simp [deeper]), absoluteText_append deeper (by simp [some]),
      absoluteText_append below some]
  rw [again, absoluteText_append below some, ← hab]
  simpa using covers_stars_between a ("**".toList ++ b ++ absoluteText names ++ a ++ "**".toList)
    (b ++ absoluteText glob)

end CompileTree.Glob
