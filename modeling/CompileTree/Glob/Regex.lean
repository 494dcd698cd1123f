/-! # Regular expressions of globs

The few constructs that globs need: single characters, runs of characters and
optional groups. `Matches` says which texts an expression matches in full;
`accepts` decides it in time linear in the text, by carrying for every ending of
the text whether the rest of the expression matches that ending, and both agree
(`accepts_iff_matches`).
-/

namespace CompileTree.Glob

/-- What a single place of an expression admits. -/
inductive CharClass where
  | only (c : Char)
  /-- Anything but a separator. -/
  | notSlash
  | any
  deriving DecidableEq, Repr

namespace CharClass

/-- Whether a character is in the class. -/
def has : CharClass → Char → Bool
  | .only d, c => c == d
  | .notSlash, c => c != '/'
  | .any, _ => true

/-- The characters that have a meaning of their own in an expression. -/
def special : List Char :=
  ['\\', '.', '+', '*', '?', '(', ')', '|', '[', ']', '\x7b', '\x7d', '^', '$', '#', '&', '-', '~']

/-- How the class is written. -/
def text : CharClass → List Char
  | .only c => if c ∈ special then ['\\', c] else [c]
  | .notSlash => "[^/]".toList
  | .any => ['.']

end CharClass

/-- An expression. -/
inductive Regex where
  | empty
  | one (k : CharClass)
  /-- Any number of characters of a class. -/
  | many (k : CharClass)
  | optional (r : Regex)
  | seq (a b : Regex)
  deriving DecidableEq, Repr

namespace Regex

/-- How an expression is written. -/
def text : Regex → List Char
  | .empty => []
  | .one k => k.text
  | .many k => k.text ++ ['*']
  | .optional r => "(?:".toList ++ r.text ++ ")?".toList
  | .seq a b => a.text ++ b.text

/-- The texts that an expression matches in full. -/
inductive Matches : Regex → List Char → Prop where
  | empty : Matches .empty []
  | one {k c} : k.has c = true → Matches (.one k) [c]
  | many {k cs} : (∀ c ∈ cs, k.has c = true) → Matches (.many k) cs
  | skip {r} : Matches (.optional r) []
  | take {r cs} : Matches r cs → Matches (.optional r) cs
  | seq {a b cs ds} : Matches a cs → Matches b ds → Matches (.seq a b) (cs ++ ds)

/-- A row tells, for every ending of a text from the longest to the empty one,
    whether some expression matches it. -/
abbrev Row := List Bool

/-- The answer for the longest ending. -/
def Row.first (row : Row) : Bool := row.headD false

/-- The row of an expression that matches only the empty ending. -/
def endRow : List Char → Row
  | [] => [true]
  | _ :: cs => false :: endRow cs

/-- One character of the class, then an ending that `next` accepts. -/
def oneRow (k : CharClass) : List Char → Row → Row
  | c :: cs, _ :: next => (k.has c && Row.first next) :: oneRow k cs next
  | _, _ => [false]

/-- Characters of the class, then an ending that `next` accepts. -/
def manyRow (k : CharClass) : List Char → Row → Row
  | c :: cs, now :: next =>
    let rest := manyRow k cs next
    (now || k.has c && Row.first rest) :: rest
  | _, next => next

/-- The row of the expression followed by what `next` accepts. -/
def row : Regex → List Char → Row → Row
  | .empty, _, next => next
  | .one k, cs, next => oneRow k cs next
  | .many k, cs, next => manyRow k cs next
  | .optional r, cs, next => List.zipWith (· || ·) (row r cs next) next
  | .seq a b, cs, next => row a cs (row b cs next)

/-- Whether the expression matches the whole text. -/
def accepts (r : Regex) (cs : List Char) : Bool := Row.first (r.row cs (endRow cs))

/-! ## Rows decide matching

A row answers one question for every ending of a text. Each expression turns the
row of a question into the row of the question whether the expression matches a
beginning of the ending and the question holds of the rest.
-/

/-- The row answers `P` for every ending of the text. -/
def Tells (P : List Char → Prop) : List Char → Row → Prop
  | [], row => ∃ b, row = [b] ∧ (b = true ↔ P [])
  | c :: cs, row => ∃ b rest, row = b :: rest ∧ (b = true ↔ P (c :: cs)) ∧ Tells P cs rest

/-- The expression matches a beginning and `P` holds of the rest. -/
def Then (r : Regex) (P : List Char → Prop) (cs : List Char) : Prop :=
  ∃ u v, cs = u ++ v ∧ r.Matches u ∧ P v

namespace Tells

variable {P Q : List Char → Prop} {cs : List Char} {row : Row}

theorem first (h : Tells P cs row) : row.first = true ↔ P cs := by
  cases cs with
  | nil =>
      obtain ⟨b, rfl, hb⟩ := h
      exact hb
  | cons c cs =>
      obtain ⟨b, rest, rfl, hb, -⟩ := h
      exact hb

theorem congr (h : Tells P cs row) (same : ∀ ds, P ds ↔ Q ds) : Tells Q cs row := by
  induction cs generalizing row with
  | nil =>
      obtain ⟨b, hrow, hb⟩ := h
      exact ⟨b, hrow, hb.trans (same _)⟩
  | cons c cs ih =>
      obtain ⟨b, rest, hrow, hb, hrest⟩ := h
      exact ⟨b, rest, hrow, hb.trans (same _), ih hrest⟩

theorem endRow : Tells (· = []) cs (endRow cs) := by
  induction cs with
  | nil => exact ⟨true, rfl, by simp⟩
  | cons c cs ih => exact ⟨false, _, rfl, by simp, ih⟩

end Tells

theorem then_empty_iff {P : List Char → Prop} {cs : List Char} : Then .empty P cs ↔ P cs := by
  constructor
  · rintro ⟨u, v, rfl, hu, hv⟩
    cases hu
    exact hv
  · exact fun h => ⟨[], cs, rfl, .empty, h⟩

theorem then_one_cons_iff {P : List Char → Prop} {k : CharClass} {c : Char} {cs : List Char} :
    Then (.one k) P (c :: cs) ↔ k.has c = true ∧ P cs := by
  constructor
  · rintro ⟨u, v, split, hu, hv⟩
    cases hu with
    | one hc =>
        cases split
        exact ⟨hc, hv⟩
  · exact fun ⟨hc, h⟩ => ⟨[c], cs, rfl, .one hc, h⟩

theorem not_then_one_nil {P : List Char → Prop} {k : CharClass} : ¬ Then (.one k) P [] := by
  rintro ⟨u, v, split, hu, -⟩
  cases hu
  cases split

theorem then_many_nil_iff {P : List Char → Prop} {k : CharClass} : Then (.many k) P [] ↔ P [] := by
  constructor
  · rintro ⟨u, v, split, -, hv⟩
    obtain ⟨rfl, rfl⟩ := List.append_eq_nil_iff.1 split.symm
    exact hv
  · exact fun h => ⟨[], [], rfl, .many (by simp), h⟩

theorem then_many_cons_iff {P : List Char → Prop} {k : CharClass} {c : Char} {cs : List Char} :
    Then (.many k) P (c :: cs) ↔ P (c :: cs) ∨ k.has c = true ∧ Then (.many k) P cs := by
  constructor
  · rintro ⟨u, v, split, hu, hv⟩
    cases hu with
    | many hall =>
        cases u with
        | nil => exact .inl (split ▸ hv)
        | cons d u =>
            cases split
            obtain ⟨hc, hall⟩ := List.forall_mem_cons.1 hall
            exact .inr ⟨hc, u, v, rfl, .many hall, hv⟩
  · rintro (h | ⟨hc, u, v, rfl, hu, hv⟩)
    · exact ⟨[], _, rfl, .many (by simp), h⟩
    · cases hu with
      | many hall => exact ⟨c :: u, v, rfl, .many (List.forall_mem_cons.2 ⟨hc, hall⟩), hv⟩

theorem then_optional_iff {P : List Char → Prop} {r : Regex} {cs : List Char} :
    Then (.optional r) P cs ↔ Then r P cs ∨ P cs := by
  constructor
  · rintro ⟨u, v, rfl, hu, hv⟩
    cases hu with
    | skip => exact .inr hv
    | take hu => exact .inl ⟨u, v, rfl, hu, hv⟩
  · rintro (⟨u, v, rfl, hu, hv⟩ | h)
    · exact ⟨u, v, rfl, .take hu, hv⟩
    · exact ⟨[], cs, rfl, .skip, h⟩

theorem then_seq_iff {P : List Char → Prop} {a b : Regex} {cs : List Char} :
    Then (.seq a b) P cs ↔ Then a (Then b P) cs := by
  constructor
  · rintro ⟨u, v, rfl, hu, hv⟩
    cases hu with
    | seq ha hb => exact ⟨_, _, List.append_assoc .., ha, _, _, rfl, hb, hv⟩
  · rintro ⟨u, _, rfl, ha, v, w, rfl, hb, hw⟩
    exact ⟨u ++ v, w, (List.append_assoc ..).symm, .seq ha hb, hw⟩

section Rows

variable {P : List Char → Prop} {cs : List Char} {next : Row}

theorem tells_oneRow {k : CharClass} (h : Tells P cs next) :
    Tells (Then (.one k) P) cs (oneRow k cs next) := by
  induction cs generalizing next with
  | nil => exact ⟨false, rfl, by simp [not_then_one_nil]⟩
  | cons c cs ih =>
      obtain ⟨b, rest, rfl, -, hrest⟩ := h
      refine ⟨_, _, rfl, ?_, ih hrest⟩
      rw [then_one_cons_iff, Bool.and_eq_true, hrest.first]

theorem tells_manyRow {k : CharClass} (h : Tells P cs next) :
    Tells (Then (.many k) P) cs (manyRow k cs next) := by
  induction cs generalizing next with
  | nil =>
      obtain ⟨b, rfl, hb⟩ := h
      exact ⟨b, rfl, hb.trans then_many_nil_iff.symm⟩
  | cons c cs ih =>
      obtain ⟨b, rest, rfl, hb, hrest⟩ := h
      refine ⟨_, _, rfl, ?_, ih hrest⟩
      rw [then_many_cons_iff, Bool.or_eq_true, Bool.and_eq_true, hb, (ih hrest).first]

theorem tells_or {Q : List Char → Prop} {other : Row} (h : Tells P cs next) (h' : Tells Q cs other) :
    Tells (fun ds => P ds ∨ Q ds) cs (List.zipWith (· || ·) next other) := by
  induction cs generalizing next other with
  | nil =>
      obtain ⟨b, rfl, hb⟩ := h
      obtain ⟨b', rfl, hb'⟩ := h'
      exact ⟨b || b', rfl, by rw [Bool.or_eq_true, hb, hb']⟩
  | cons c cs ih =>
      obtain ⟨b, rest, rfl, hb, hrest⟩ := h
      obtain ⟨b', rest', rfl, hb', hrest'⟩ := h'
      exact ⟨b || b', _, rfl, by rw [Bool.or_eq_true, hb, hb'], ih hrest hrest'⟩

theorem tells_row (r : Regex) (h : Tells P cs next) : Tells (Then r P) cs (r.row cs next) := by
  induction r generalizing P next with
  | empty => exact h.congr fun _ => then_empty_iff.symm
  | one k => exact tells_oneRow h
  | many k => exact tells_manyRow h
  | optional r ih => exact (tells_or (ih h) h).congr fun _ => then_optional_iff.symm
  | seq a b iha ihb => exact (iha (ihb h)).congr fun _ => then_seq_iff.symm

end Rows

/-- What is accepted is what the expression matches in full. -/
theorem accepts_iff_matches {r : Regex} {cs : List Char} : r.accepts cs = true ↔ r.Matches cs := by
  rw [accepts, (tells_row r Tells.endRow).first, Then]
  constructor
  · rintro ⟨u, v, rfl, hu, rfl⟩
    rwa [List.append_nil]
  · exact fun h => ⟨cs, [], by simp, h, rfl⟩

end Regex

end CompileTree.Glob
