import CompileTree.Proofs.Path.Descent
import CompileTree.SourceKind
import CompileTree.Synthesis
import Mathlib.Data.List.TakeWhile

/-! # Sources of C

Few characters have an early lower-case form, one before `d`: themselves, and the
capital letters of ASCII. So a path is that of a C source just when it ends in `.c`
or `.C`. A source is found by the extension of its last name and compiled by the end of
its whole path; the two agree, except on hidden files that are named `.c` and are no
sources (`isC_descend_iff`). Nor does it matter which of its two small letters a capital
sigma becomes (`Lowers`).
-/

namespace CompileTree

namespace Text

variable {cs out word : List Char}

theorem CaseRange.lower?_eq_some {r : CaseRange} {n image : Nat} (h : r.lower? n = some image) :
    r.first ≤ n ∧ n ≤ r.last ∧ image = r.image + (n - r.first) := by
  rw [CaseRange.lower?] at h
  split at h
  · next inside =>
      cases h
      exact ⟨inside.1, inside.2.1, rfl⟩
  · cases h

set_option maxRecDepth 1024 in
theorem image_of_mem_caseRanges : ∀ r ∈ caseRanges, r = ⟨0x41, 0x5A, 1, 0x61⟩ ∨ 0x64 ≤ r.image := by
  decide

/-- Only the character itself and capital letters of ASCII have an early lower-case form. -/
theorem lowerChar_of_mem {c d : Char} (h : d ∈ lowerChar c) (early : 0 < d.toNat ∧ d.toNat < 0x64) :
    lowerChar c = [d] ∧ (c = d ∨ 0x41 ≤ c.toNat ∧ d.toNat = c.toNat + 0x20) := by
  rw [lowerChar] at h ⊢
  split at h
  · rcases List.mem_cons.1 h with rfl | h
    · exact absurd early (by decide)
    · obtain rfl := List.mem_singleton.1 h
      exact absurd early (by decide)
  · next notDotted =>
      rw [if_neg notDotted]
      split at h
      · next n found =>
          obtain rfl := List.mem_singleton.1 h
          refine ⟨rfl, .inr ?_⟩
          obtain ⟨r, hr, mapped⟩ := List.exists_of_findSome?_eq_some found
          obtain ⟨above, below, rfl⟩ := CaseRange.lower?_eq_some mapped
          have kept : (Char.ofNat (r.image + (c.toNat - r.first))).toNat =
              r.image + (c.toNat - r.first) := by
            by_cases valid : (r.image + (c.toNat - r.first)).isValidChar
            · rw [Char.ofNat, dif_pos valid]
              rfl
            · rw [Char.ofNat, dif_neg valid] at early
              exact absurd early.1 (Nat.lt_irrefl 0)
          rw [kept] at early ⊢
          rcases image_of_mem_caseRanges r hr with rfl | late
          · dsimp only at above ⊢
            omega
          · omega
      · obtain rfl := List.mem_singleton.1 h
        exact ⟨rfl, .inl rfl⟩

theorem lowerChar_ne_nil (c : Char) : lowerChar c ≠ [] := by
  rw [lowerChar]
  split
  · simp
  · split <;> simp

theorem lower_cons (c : Char) (cs : List Char) : lower (c :: cs) = lowerChar c ++ lower cs := rfl

theorem lower_eq_nil_iff : lower cs = [] ↔ cs = [] := by
  cases cs with
  | nil => simp
  | cons c cs => simp [lower_cons, lowerChar_ne_nil]

/-- A text whose lower-case form ends in an early character ends in one that has this form. -/
theorem exists_of_lower_eq_concat {start : List Char} {d : Char} (h : lower cs = start ++ [d])
    (early : 0 < d.toNat ∧ d.toNat < 0x64) :
    ∃ before c, cs = before ++ [c] ∧ lower before = start ∧
      (c = d ∨ 0x41 ≤ c.toNat ∧ d.toNat = c.toNat + 0x20) := by
  rcases List.eq_nil_or_concat cs with rfl | ⟨before, c, rfl⟩
  · simp at h
  · rw [List.concat_eq_append] at h ⊢
    rw [lower_append] at h
    have last : lower [c] = lowerChar c := List.append_nil _
    rw [last] at h
    have final : (lowerChar c).getLast? = some d := by
      rw [← List.getLast?_append_of_ne_nil _ (lowerChar_ne_nil c), h, List.getLast?_concat]
    obtain ⟨alone, form⟩ := lowerChar_of_mem (List.mem_of_getLast? final) early
    rw [alone] at h
    exact ⟨before, c, rfl, (List.append_inj' h rfl).1, form⟩

theorem exists_of_lower_eq_append_c {start : List Char} (h : lower cs = start ++ "c".toList) :
    ∃ before, lower before = start ∧ (cs = before ++ "c".toList ∨ cs = before ++ "C".toList) := by
  obtain ⟨before, c, rfl, lowered, form⟩ := exists_of_lower_eq_concat h (by decide)
  refine ⟨before, lowered, ?_⟩
  rcases form with rfl | ⟨-, capital⟩
  · exact .inl rfl
  · obtain rfl : c = 'C' := Char.toNat_inj.1 (Nat.add_right_cancel capital.symm)
    exact .inr rfl

theorem lower_eq_c_iff : lower cs = "c".toList ↔ cs = "c".toList ∨ cs = "C".toList := by
  constructor
  · intro h
    obtain ⟨before, empty, spelled⟩ := exists_of_lower_eq_append_c (h.trans (List.nil_append _).symm)
    obtain rfl := lower_eq_nil_iff.1 empty
    exact spelled
  · rintro (rfl | rfl) <;> decide

/-! ## The two small sigmas -/

/-- The texts that a text may become in lower case. A capital sigma has two small letters,
    and the word around it decides between them; here it may become either. -/
inductive Lowers : List Char → List Char → Prop where
  | nil : Lowers [] []
  | char (c : Char) {cs out : List Char} (rest : Lowers cs out) : Lowers (c :: cs) (lowerChar c ++ out)
  | finalSigma {cs out : List Char} (rest : Lowers cs out) : Lowers ('Σ' :: cs) ('ς' :: out)

theorem lowers_lower (cs : List Char) : Lowers cs (lower cs) := by
  induction cs with
  | nil => exact .nil
  | cons c cs ih => exact .char c ih

/-- One letter for both small sigmas. -/
def settle (c : Char) : Char := if c = 'ς' then 'σ' else c

/-- A text without small sigmas. -/
def NoSigma (word : List Char) : Prop := 'σ' ∉ word ∧ 'ς' ∉ word

instance (word : List Char) : Decidable (NoSigma word) := inferInstanceAs (Decidable (_ ∧ _))

/-- Once the small sigmas are one letter, a text has one lower-case form. -/
theorem Lowers.map_settle (h : Lowers cs out) : out.map settle = (lower cs).map settle := by
  induction h with
  | nil => rfl
  | char c rest ih => rw [lower_cons, List.map_append, List.map_append, ih]
  | finalSigma rest ih =>
      have sigma : lowerChar 'Σ' = ['σ'] := by decide
      rw [lower_cons, sigma, List.map_append, List.map_cons, ih]
      rfl

theorem map_settle_eq_iff (plain : NoSigma word) : out.map settle = word ↔ out = word := by
  have kept : ∀ cs : List Char, 'ς' ∉ cs → cs.map settle = cs := by
    intro cs other
    have fixed : ∀ c ∈ cs, settle c = id c := fun c hc =>
      if_neg (ne_of_mem_of_not_mem hc other)
    rw [List.map_congr_left fixed, List.map_id]
  constructor
  · rintro rfl
    exact (kept out fun final => plain.1 (List.mem_map.2 ⟨_, final, rfl⟩)).symm
  · rintro rfl
    exact kept out plain.2

theorem Lowers.eq_iff (h : Lowers cs out) (plain : NoSigma word) : out = word ↔ lower cs = word := by
  rw [← map_settle_eq_iff plain, h.map_settle, map_settle_eq_iff plain]

theorem Lowers.suffix_iff (h : Lowers cs out) (plain : NoSigma word) :
    word <:+ out ↔ word <:+ lower cs := by
  have settled : ∀ l : List Char, word <:+ l.map settle ↔ word <:+ l := by
    intro l
    rw [List.suffix_map_iff]
    simp only [eq_comm (a := word), map_settle_eq_iff plain, exists_eq_right]
  rw [← settled, h.map_settle, settled]

end Text

namespace Path

variable {p root : Path} {name : String} {names : List String} {extensions : List String}
  {cs stem e whole extension : List Char}

/-- A path is that of a C source when it ends in `.c`, whatever the case of the letter. -/
theorem isC_iff : p.isC = true ↔ ".c".toList <:+ p.chars ∨ ".C".toList <:+ p.chars := by
  rw [isC, List.isSuffixOf_iff_suffix]
  constructor
  · rintro ⟨start, h⟩
    have ends : Text.lower p.chars = (start ++ ['.']) ++ "c".toList := by
      rw [← h, List.append_assoc]
      rfl
    obtain ⟨before, ends, spelled⟩ := Text.exists_of_lower_eq_append_c ends
    obtain ⟨first, dot, rfl, -, isDot⟩ := Text.exists_of_lower_eq_concat ends (by decide)
    rcases isDot with rfl | ⟨letter, mapped⟩
    · rw [List.append_assoc, List.append_assoc] at spelled
      exact spelled.imp (fun h => ⟨first, h.symm⟩) fun h => ⟨first, h.symm⟩
    · change 0x2E = _ at mapped
      omega
  · rintro (⟨first, h⟩ | ⟨first, h⟩)
    · rw [← h, Text.lower_append]
      exact ⟨_, rfl⟩
    · rw [← h, Text.lower_append]
      exact ⟨_, rfl⟩

/-! ## Extensions -/

theorem forall_mem_reverse_of_plain (plain : '.' ∉ cs) : ∀ c ∈ cs.reverse, decide (c ≠ '.') = true :=
  fun _ hc => decide_eq_true (ne_of_mem_of_not_mem (List.mem_reverse.1 hc) plain)

theorem extensionOf_append_dot (plain : '.' ∉ e) :
    extensionOf (stem ++ '.' :: e) = if stem = [] then none else some e := by
  have after : ((stem ++ '.' :: e).reverse.takeWhile (· ≠ '.')).reverse = e := by
    rw [List.reverse_append, List.reverse_cons, List.append_assoc,
      List.takeWhile_append_of_pos (forall_mem_reverse_of_plain plain)]
    simp
  have short : (stem ++ '.' :: e).length ≤ e.length + 1 ↔ stem = [] := by
    rw [← List.length_eq_zero_iff, List.length_append, List.length_cons]
    omega
  rw [extensionOf, after]
  exact if_congr short rfl rfl

theorem extensionOf_of_plain (plain : '.' ∉ cs) : extensionOf cs = none := by
  rw [extensionOf, List.takeWhile_eq_self_iff.2 (forall_mem_reverse_of_plain plain),
    List.reverse_reverse]
  exact if_pos (Nat.le_succ _)

theorem exists_of_extensionOf_eq_some (h : extensionOf cs = some e) : ∃ stem, cs = stem ++ '.' :: e := by
  by_cases dot : '.' ∈ cs
  · obtain ⟨after, stem, cut, plain⟩ := List.eq_append_cons_of_mem (List.mem_reverse.2 dot)
    have spelled : cs = stem.reverse ++ '.' :: after.reverse := by
      rw [← List.reverse_reverse cs, cut]
      simp
    rw [spelled, extensionOf_append_dot (by simpa using plain)] at h
    split at h
    · cases h
    · exact ⟨_, Option.some.inj h ▸ spelled⟩
  · rw [extensionOf_of_plain dot] at h
    cases h

/-- A name ends in a dot and one more character if this is its extension, or if there
    is nothing else in it. -/
theorem suffix_dot_iff {d : Char} (other : d ≠ '.') :
    ['.', d] <:+ cs ↔ extensionOf cs = some [d] ∨ cs = ['.', d] := by
  have plain : '.' ∉ [d] := by simpa using other.symm
  constructor
  · rintro ⟨stem, rfl⟩
    rw [extensionOf_append_dot plain]
    by_cases bare : stem = []
    · exact .inr (by rw [bare, List.nil_append])
    · exact .inl (if_neg bare)
  · rintro (extended | rfl)
    · obtain ⟨stem, rfl⟩ := exists_of_extensionOf_eq_some extended
      exact List.suffix_append stem ['.', d]
    · exact List.suffix_refl _

/-- A name ends in `.c`, whatever the case, if `c` is its extension or it is hidden and has none. -/
theorem suffix_dotC_iff : ".c".toList <:+ cs ∨ ".C".toList <:+ cs ↔
    (extensionOf cs).map Text.lower = some "c".toList ∨ cs = ".c".toList ∨ cs = ".C".toList := by
  have small : ".c".toList <:+ cs ↔ extensionOf cs = some "c".toList ∨ cs = ".c".toList :=
    suffix_dot_iff (by decide)
  have capital : ".C".toList <:+ cs ↔ extensionOf cs = some "C".toList ∨ cs = ".C".toList :=
    suffix_dot_iff (by decide)
  have lowered : (extensionOf cs).map Text.lower = some "c".toList ↔
      extensionOf cs = some "c".toList ∨ extensionOf cs = some "C".toList := by
    cases extensionOf cs with
    | none => simp
    | some e => simp only [Option.map_some, Option.some.injEq, Text.lower_eq_c_iff]
  rw [small, capital, lowered, or_or_or_comm]

theorem hasExtension_iff : p.hasExtension extensions = true ↔
    ∃ e, p.extension? = some e ∧ ∃ x ∈ extensions, x.toList = Text.lower e := by
  rw [hasExtension]
  split
  · next extended => simp [extended]
  · next bare => simp [bare]

/-- An extension is found in a list without sigmas by any of its lower-case forms. -/
theorem hasExtension_iff_of_lowers (plain : ∀ x ∈ extensions, Text.NoSigma x.toList)
    (extended : p.extension? = some e) (lowered : Text.Lowers e extension) :
    p.hasExtension extensions = true ↔ String.ofList extension ∈ extensions := by
  rw [hasExtension_iff]
  simp only [extended, Option.some.injEq, exists_eq_left']
  constructor
  · rintro ⟨x, hx, h⟩
    rwa [(lowered.eq_iff (plain x hx)).2 h.symm, String.ofList_toList]
  · intro listed
    have h := (lowered.eq_iff (plain _ listed)).1 String.toList_ofList.symm
    exact ⟨_, listed, h.symm⟩

/-! ## Files below a directory -/

theorem extension?_descend (named : ∀ name ∈ names, IsName name) (nonempty : names ≠ []) :
    (root.descend names).extension? = names.getLast?.bind fun name => extensionOf name.toList := by
  rw [extension?, fileName?_descend named nonempty]

/-- The whole path and the extension tell the same files to be C, but for hidden ones. -/
theorem isC_descend_iff (named : ∀ name ∈ names, IsName name) (nonempty : names ≠ []) :
    (root.descend names).isC = true ↔
      (root.descend names).extension?.map Text.lower = some "c".toList ∨
        names.getLast? = some ".c" ∨ names.getLast? = some ".C" := by
  rw [extension?_descend named nonempty]
  obtain ⟨dirs, name, rfl⟩ := (List.eq_nil_or_concat' names).resolve_left nonempty
  have h : IsName name := named name (by simp)
  obtain ⟨before, spelled, opens⟩ := h.exists_opens (p := root.descend dirs)
  have chars : (root.descend (dirs ++ [name])).chars = before ++ name.toList := by
    rw [descend_append]
    exact spelled
  rw [isC_iff, chars, opens.suffix_append_iff (by decide), opens.suffix_append_iff (by decide),
    suffix_dotC_iff, List.getLast?_concat, Option.bind_some, String.toList_inj, String.toList_inj,
    Option.some_inj, Option.some_inj]

theorem isC_iff_extension (named : ∀ name ∈ names, IsName name) (nonempty : names ≠ [])
    (source : (root.descend names).isSource = true) :
    (root.descend names).isC = true ↔
      (root.descend names).extension?.map Text.lower = some "c".toList := by
  refine (isC_descend_iff named nonempty).trans (or_iff_left ?_)
  intro hidden
  -- A hidden file has no extension, so it is no source.
  obtain ⟨e, extended, -⟩ := hasExtension_iff.1 source
  rw [extension?_descend named nonempty] at extended
  have bare : extensionOf ".c".toList = none ∧ extensionOf ".C".toList = none := by decide
  rcases hidden with last | last
  · rw [last, Option.bind_some, bare.1] at extended
    cases extended
  · rw [last, Option.bind_some, bare.2] at extended
    cases extended

/-- Below a directory, a source is given to the C compiler exactly if its extension is that of
    a C source, and whichever letters the sigmas in its path become in lower case, the whole
    path shows the same as the extension that it was found by. -/
theorem classified_by_extension (named : ∀ name ∈ names, IsName name) (nonempty : names ≠ [])
    (source : (root.descend names).isSource = true) :
    let p := root.descend names
    (p.isC = true ↔ p.extension?.map Text.lower = some "c".toList) ∧
      (∀ e extension whole, p.extension? = some e → Text.Lowers e extension →
        Text.Lowers p.chars whole →
          String.ofList extension ∈ sourceExtensions ∧
            (".c".toList <:+ whole ↔ extension = "c".toList)) ∧
      ∀ (compiler : Compiler) (directory : Path) (searched : List Path),
        (Synthesis.spec compiler directory p searched).words =
          (if p.extension?.map Text.lower = some "c".toList then compiler.cStart
            else compiler.cxxStart) ++
            searched.map compiler.searchFlag ++ compiler.outputFlags (p.text ++ ".o") ++ [p.text] := by
  intro p
  have agree := isC_iff_extension named nonempty source
  refine ⟨agree, fun e extension whole extended lowered lowered' => ⟨?_, ?_⟩, ?_⟩
  · exact (hasExtension_iff_of_lowers (by decide) extended lowered).1 source
  · rw [lowered'.suffix_iff (by decide), ← List.isSuffixOf_iff_suffix, ← isC, agree, extended,
      Option.map_some, Option.some_inj, lowered.eq_iff (by decide)]
  · intro compiler directory searched
    rw [Synthesis.spec, ← if_congr agree rfl rfl]
    rfl

theorem classified_by_extension_finalSigma :
    let names := ["main.C"]
    let p := (Path.mk "ΟΔΟΣ").descend names
    ((∀ name ∈ names, IsName name) ∧ names ≠ [] ∧ p.isSource = true) ∧ p.isC = true ∧
      (∃ whole, Text.Lowers p.chars whole ∧ 'ς' ∈ whole ∧ ".c".toList <:+ whole) ∧
      (Synthesis.spec (.clang ⟨"clang"⟩ ⟨"clang++"⟩) ⟨"ΟΔΟΣ"⟩ p []).words =
        ["clang", "-c", "-fsyntax-only", "-o", "ΟΔΟΣ/main.C.o", "ΟΔΟΣ/main.C"] := by
  intro names p
  have named : ∀ name ∈ names, IsName name := by decide
  have source : p.isSource = true := by decide
  have extended : p.extension? = some "C".toList := by decide
  have lowered : p.extension?.map Text.lower = some "c".toList := by decide
  obtain ⟨agree, forms, words⟩ := classified_by_extension named (by decide) source
  refine ⟨⟨named, by decide, source⟩, agree.2 lowered, ?_, ?_⟩
  · have spelled : p.chars = 'Ο' :: 'Δ' :: 'Ο' :: 'Σ' :: "/main.C".toList := by decide
    have whole : Text.Lowers ('Ο' :: 'Δ' :: 'Ο' :: 'Σ' :: "/main.C".toList) _ :=
      .char _ (.char _ (.char _ (.finalSigma (Text.lowers_lower _))))
    rw [← spelled] at whole
    have ends := (forms _ _ _ extended (Text.lowers_lower _) whole).2
    exact ⟨_, whole, by simp, ends.2 (by decide)⟩
  · rw [words, if_pos lowered]
    decide

end Path

end CompileTree
