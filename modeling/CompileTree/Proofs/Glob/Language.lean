import CompileTree.Glob

/-! # The language of a glob

`Covers` reads a glob in normal form from left to right: runs of stars are taken
whole, and each piece of the glob takes a piece of the text. The places of a glob
and the expression made of them have the same language.
-/

namespace CompileTree.Glob

/-- The text splits into pieces that the pieces of the pattern stand for. -/
inductive Covers : List Char → List Char → Prop where
  | done : Covers [] []
  | plain {c p s} : c ≠ '*' → c ≠ '?' → Covers p s → Covers (c :: p) (c :: s)
  | single {c p s} : c ≠ '/' → Covers p s → Covers ('?' :: p) (c :: s)
  /-- A star alone stands for a run within one component. -/
  | star {p run s} : p.head? ≠ some '*' → '/' ∉ run → Covers p s → Covers ('*' :: p) (run ++ s)
  /-- Several stars with the separator behind them stand for whole directories. -/
  | directories {n p run s} : 2 ≤ n → run = [] ∨ run.getLast? = some '/' → Covers p s →
      Covers (List.replicate n '*' ++ '/' :: p) (run ++ s)
  /-- Several stars stand for any text. -/
  | stars {n p run s} : 2 ≤ n → p.head? ≠ some '*' → p.head? ≠ some '/' → Covers p s →
      Covers (List.replicate n '*' ++ p) (run ++ s)

/-- What a place of a glob stands for. -/
def Token.Admits : Token → List Char → Prop
  | .literal c, s => s = [c]
  | .single, s => ∃ c, c ≠ '/' ∧ s = [c]
  | .segment, s => '/' ∉ s
  | .anything, _ => True
  | .directories, s => s = [] ∨ s.getLast? = some '/'

/-- What the places of a glob stand for one after the other. -/
def Denotes : List Token → List Char → Prop
  | [], s => s = []
  | t :: ts, s => ∃ u v, s = u ++ v ∧ t.Admits u ∧ Denotes ts v

theorem denotes_append {ts us : List Token} {s : List Char} :
    Denotes (ts ++ us) s ↔ ∃ u v, s = u ++ v ∧ Denotes ts u ∧ Denotes us v := by
  induction ts generalizing s with
  | nil =>
      constructor
      · exact fun h => ⟨[], s, rfl, rfl, h⟩
      · rintro ⟨_, v, rfl, rfl, hv⟩
        exact hv
  | cons t ts ih =>
      simp only [List.cons_append, Denotes, ih]
      constructor
      · rintro ⟨u, _, rfl, hu, v, w, rfl, hv, hw⟩
        exact ⟨u ++ v, w, (List.append_assoc ..).symm, ⟨u, v, rfl, hu, hv⟩, hw⟩
      · rintro ⟨_, w, rfl, ⟨u, v, rfl, hu, hv⟩, hw⟩
        exact ⟨u, v ++ w, List.append_assoc .., hu, v, w, rfl, hv, hw⟩

theorem denotes_singleton {t : Token} {s : List Char} : Denotes [t] s ↔ t.Admits s := by
  simp [Denotes]

/-! ## Places and expressions -/

theorem matches_regex_iff_admits {t : Token} {s : List Char} : t.regex.Matches s ↔ t.Admits s := by
  cases t with
  | literal c =>
      constructor
      · rintro ⟨⟩
        simp_all [CharClass.has, Token.Admits]
      · rintro rfl
        exact .one (by simp [CharClass.has])
  | single =>
      constructor
      · rintro ⟨⟩
        simp_all [CharClass.has, Token.Admits]
      · rintro ⟨c, hc, rfl⟩
        exact .one (by simpa [CharClass.has] using hc)
  | segment =>
      constructor
      · rintro ⟨⟩
        simp_all only [CharClass.has, Token.Admits, bne_iff_ne]
        grind
      · intro h
        refine .many fun c hc => ?_
        simp only [CharClass.has, bne_iff_ne]
        rintro rfl
        exact h hc
  | anything => exact ⟨fun _ => trivial, fun _ => .many fun _ _ => rfl⟩
  | directories =>
      constructor
      · intro h
        cases h with
        | skip => exact .inl rfl
        | take h =>
            cases h with
            | seq _ hslash =>
                cases hslash with
                | one hc =>
                    simp only [CharClass.has, beq_iff_eq] at hc
                    exact .inr (by simp [hc])
      · rintro (rfl | hlast)
        · exact .skip
        · obtain ⟨u, rfl⟩ := List.getLast?_eq_some_iff.1 hlast
          exact .take (.seq (.many fun _ _ => rfl) (.one (by simp [CharClass.has])))

theorem matches_foldr_iff_denotes {ts : List Token} {s : List Char} :
    (ts.foldr (fun t r => Regex.seq t.regex r) .empty).Matches s ↔ Denotes ts s := by
  induction ts generalizing s with
  | nil =>
      constructor
      · rintro ⟨⟩
        rfl
      · rintro rfl
        exact .empty
  | cons t ts ih =>
      constructor
      · intro h
        cases h with
        | seq ht hts => exact ⟨_, _, rfl, matches_regex_iff_admits.1 ht, ih.1 hts⟩
      · rintro ⟨u, v, rfl, hu, hv⟩
        exact .seq (matches_regex_iff_admits.2 hu) (ih.2 hv)

/-! ## Places and patterns -/

theorem scan_replicate (n m : Nat) (p : List Char) :
    scan n (List.replicate m '*' ++ p) = scan (n + m) p := by
  induction m generalizing n with
  | zero => rfl
  | succ m ih =>
      rw [List.replicate_succ, List.cons_append, scan, if_pos rfl, ih]
      congr 1
      omega

/-- A run of stars that nothing behind it prolongs or absorbs stands for itself. -/
theorem scan_of_head {n : Nat} {p : List Char} (noStar : p.head? ≠ some '*')
    (noSlash : ¬ (2 ≤ n ∧ p.head? = some '/')) : scan n p = ofStars n ++ scan 0 p := by
  cases p with
  | nil => simp [scan, ofStars]
  | cons c p =>
      rw [List.head?_cons, Option.some.injEq] at noSlash
      rw [List.head?_cons, ne_eq, Option.some.injEq] at noStar
      simp [scan, noStar, noSlash, ofStars]

theorem denotes_scan_of_covers {p s : List Char} (h : Covers p s) : Denotes (scan 0 p) s := by
  induction h with
  | done => rfl
  | @plain c p s noStar noQuestion _ ih =>
      have places : scan 0 (c :: p) = .literal c :: scan 0 p := by
        simp [scan, noStar, noQuestion, ofStars]
      rw [places]
      exact ⟨[c], s, rfl, rfl, ih⟩
  | @single c p s hc _ ih => exact ⟨[c], s, rfl, ⟨c, hc, rfl⟩, ih⟩
  | @star p run s maximal hrun _ ih =>
      have places : scan 0 ('*' :: p) = .segment :: scan 0 p := scan_of_head maximal (by omega)
      rw [places]
      exact ⟨run, s, rfl, hrun, ih⟩
  | @directories n p run s several hrun _ ih =>
      have places : scan n ('/' :: p) = .directories :: scan 0 p := by simp [scan, several]
      rw [scan_replicate, Nat.zero_add, places]
      exact ⟨run, s, rfl, hrun, ih⟩
  | @stars n p run s several maximal noSlash _ ih =>
      obtain ⟨k, rfl⟩ := Nat.exists_eq_add_of_le' several
      rw [scan_replicate, Nat.zero_add, scan_of_head maximal (by simp [noSlash])]
      exact ⟨run, s, rfl, trivial, ih⟩

/-- What a finished run of stars stands for, in front of the rest of a pattern. -/
theorem covers_of_stars {n : Nat} {p run s : List Char} (noStar : p.head? ≠ some '*')
    (noSlash : ¬ (2 ≤ n ∧ p.head? = some '/')) (hrun : Denotes (ofStars n) run) (h : Covers p s) :
    Covers (List.replicate n '*' ++ p) (run ++ s) := by
  match n with
  | 0 =>
      rw [ofStars, Denotes] at hrun
      simpa [hrun] using h
  | 1 => exact .star noStar (denotes_singleton.1 hrun) h
  | n + 2 => exact .stars (by omega) noStar (by simpa using noSlash) h

theorem covers_of_denotes_scan {n : Nat} {p s : List Char} (h : Denotes (scan n p) s) :
    Covers (List.replicate n '*' ++ p) s := by
  induction p generalizing n s with
  | nil =>
      have := covers_of_stars (p := []) (by simp) (by simp) h .done
      simpa using this
  | cons c p ih =>
      rw [scan] at h
      split at h
      · next star =>
          subst star
          have := ih h
          rwa [List.replicate_succ', List.append_assoc] at this
      · next noStar =>
          split at h
          · next slash =>
              obtain ⟨several, rfl⟩ := slash
              obtain ⟨run, rest, rfl, hrun, hrest⟩ := h
              exact .directories several hrun (ih (n := 0) hrest)
          · next noSlash =>
              obtain ⟨run, _, rfl, hrun, hplace⟩ := denotes_append.1 h
              obtain ⟨one, rest, rfl, hone, hrest⟩ := hplace
              have head : ∀ d, (c :: p).head? = some d ↔ c = d := by simp
              refine covers_of_stars (by simpa [head]) (by simpa [head] using noSlash) hrun ?_
              split at hone
              · next question =>
                  subst question
                  obtain ⟨d, hd, rfl⟩ := hone
                  exact .single hd (ih (n := 0) hrest)
              · next noQuestion =>
                  obtain rfl : one = [c] := hone
                  exact .plain noStar noQuestion (ih (n := 0) hrest)

theorem denotes_scan_iff {p s : List Char} : Denotes (scan 0 p) s ↔ Covers p s :=
  ⟨covers_of_denotes_scan, denotes_scan_of_covers⟩

/-- Behind a run of stars that stand for a text, a pattern stands for itself. -/
theorem denotes_scan_self {n : Nat} {p run : List Char} (h : Denotes (ofStars n) run) :
    Denotes (scan n p) (run ++ p) := by
  have fresh : Denotes (ofStars 0) [] := rfl
  induction p generalizing n run with
  | nil => simpa [scan] using h
  | cons c p ih =>
      rw [scan]
      split
      · next star =>
          subst star
          have longer : Denotes (ofStars (n + 1)) (run ++ ['*']) := by
            match n with
            | 0 =>
                rw [ofStars, Denotes] at h
                exact denotes_singleton.2 (by simp [h, Token.Admits])
            | n + 1 => exact denotes_singleton.2 trivial
          simpa using ih longer
      · split
        · next slash =>
            obtain ⟨-, rfl⟩ := slash
            exact ⟨run ++ ['/'], p, by simp, .inr (by simp), ih fresh⟩
        · refine denotes_append.2 ⟨run, c :: p, rfl, h, [c], p, rfl, ?_, ih fresh⟩
          split
          · next question => exact ⟨c, by simp [question], rfl⟩
          · rfl

/-- Every pattern covers itself. -/
theorem covers_self (p : List Char) : Covers p p := by
  have fresh : Denotes (ofStars 0) [] := rfl
  exact denotes_scan_iff.1 (denotes_scan_self fresh)

/-- The expression of a glob matches what its normal form covers. -/
theorem matches_regex_iff {pattern s : List Char} :
    (regex pattern).Matches s ↔ Covers (Path.normalChars pattern) s := by
  rw [regex, matches_foldr_iff_denotes, tokens, denotes_scan_iff]

theorem accepts_ofPatterns_iff {patterns : List (List Char)} {s : List Char} (nonempty : patterns ≠ []) :
    (Alternatives.ofPatterns patterns).accepts s = true ↔
      ∃ p ∈ patterns, Covers (Path.normalChars p) s := by
  have anyChoice : (Alternatives.ofPatterns patterns).accepts s =
      (patterns.map regex).any (·.accepts s) := by
    cases patterns with
    | nil => exact absurd rfl nonempty
    | cons p ps => rfl
  rw [anyChoice, List.any_map, List.any_eq_true]
  simp only [Function.comp_apply, Regex.accepts_iff_matches, matches_regex_iff]

end CompileTree.Glob
