/-! # Hexadecimal digits

Numbers are written with lower-case digits, most significant first, and padded
with zeros to a least width. The digits of a number, padded or not, have that number
as their value; a number that fits a width is padded to just that many digits.
-/

namespace CompileTree.Text

/-- The lower-case digit of a number below sixteen. -/
def hexDigit (n : Nat) : Char :=
  if n < 10 then Char.ofNat (48 + n) else Char.ofNat (87 + n)

/-- The digits of `n`; zero has one. -/
def hexDigits (n : Nat) : List Char :=
  if n < 16 then [hexDigit n] else hexDigits (n / 16) ++ [hexDigit (n % 16)]
termination_by n

/-- The digits of `n`, padded with zeros to at least `width` places. -/
def paddedHex (width n : Nat) : List Char :=
  let ds := hexDigits n
  List.replicate (width - ds.length) '0' ++ ds

/-- The value of a digit of either case. -/
def hexValue? (c : Char) : Option Nat :=
  if '0' ≤ c ∧ c ≤ '9' then some (c.toNat - 48)
  else if 'a' ≤ c ∧ c ≤ 'f' then some (c.toNat - 87)
  else if 'A' ≤ c ∧ c ≤ 'F' then some (c.toNat - 55)
  else none

/-- The value of a run of digits, none if it holds anything else. -/
def hexNumber? (cs : List Char) : Option Nat :=
  cs.foldlM (fun n c => (hexValue? c).map (n * 16 + ·)) 0

/-! ## Reading digits back -/

theorem hexValue?_hexDigit : ∀ n < 16, hexValue? (hexDigit n) = some n := by decide

theorem hexNumber?_append_singleton (cs : List Char) (c : Char) :
    hexNumber? (cs ++ [c]) =
      (hexNumber? cs).bind fun n => (hexValue? c).map (n * 16 + ·) := by
  rw [hexNumber?, hexNumber?, List.foldlM_append]
  simp

theorem hexNumber?_hexDigits (n : Nat) : hexNumber? (hexDigits n) = some n := by
  fun_induction hexDigits n with
  | case1 n small => simp [hexNumber?, hexValue?_hexDigit n small]
  | case2 n _ ih =>
      rw [hexNumber?_append_singleton, ih, hexValue?_hexDigit _ (Nat.mod_lt n (by decide))]
      simp only [Option.bind_some, Option.map_some, Option.some.injEq]
      omega

/-- Zeros in front do not change a value. -/
theorem hexNumber?_paddedHex (width n : Nat) : hexNumber? (paddedHex width n) = some n := by
  rw [paddedHex]
  induction width - (hexDigits n).length with
  | zero => exact hexNumber?_hexDigits n
  | succ zeros ih =>
      rw [List.replicate_succ, List.cons_append, hexNumber?, List.foldlM_cons]
      exact ih

/-- Padded digits tell their number. -/
theorem paddedHex_injective {width n m : Nat} (same : paddedHex width n = paddedHex width m) :
    n = m := by
  have value := hexNumber?_paddedHex width n
  rw [same, hexNumber?_paddedHex] at value
  exact (Option.some.inj value).symm

/-! ## Which digits, and how many -/

/-- A lower-case digit. -/
def IsHexDigit (c : Char) : Prop := ('0' ≤ c ∧ c ≤ '9') ∨ ('a' ≤ c ∧ c ≤ 'f')

instance : DecidablePred IsHexDigit := fun _ => inferInstanceAs (Decidable (_ ∨ _))

theorem isHexDigit_hexDigit : ∀ n < 16, IsHexDigit (hexDigit n) := by decide

theorem isHexDigit_of_mem_hexDigits {n : Nat} : ∀ c ∈ hexDigits n, IsHexDigit c := by
  fun_induction hexDigits n with
  | case1 n small => exact List.forall_mem_singleton.2 (isHexDigit_hexDigit n small)
  | case2 n _ ih =>
      refine List.forall_mem_append.2 ⟨ih, List.forall_mem_singleton.2 ?_⟩
      exact isHexDigit_hexDigit _ (Nat.mod_lt n (by decide))

theorem isHexDigit_of_mem_paddedHex {width n : Nat} : ∀ c ∈ paddedHex width n, IsHexDigit c := by
  intro c hc
  rcases List.mem_append.1 hc with zero | digit
  · rw [List.eq_of_mem_replicate zero]
    decide
  · exact isHexDigit_of_mem_hexDigits c digit

theorem le_length_paddedHex (width n : Nat) : width ≤ (paddedHex width n).length := by
  rw [paddedHex, List.length_append, List.length_replicate]
  omega

theorem length_hexDigits_le {n width : Nat} (fits : n < Nat.pow 16 (width + 1)) :
    (hexDigits n).length ≤ width + 1 := by
  induction width generalizing n with
  | zero =>
      rw [hexDigits, if_pos (by simpa using fits)]
      exact Nat.le_refl 1
  | succ width ih =>
      rw [hexDigits]
      split
      · exact Nat.le_add_left 1 _
      · have smaller : n / 16 < Nat.pow 16 (width + 1) :=
          Nat.div_lt_of_lt_mul (by rwa [Nat.mul_comm])
        rw [List.length_append]
        exact Nat.add_le_add_right (ih smaller) 1

theorem length_paddedHex {n width : Nat} (fits : n < Nat.pow 16 (width + 1)) :
    (paddedHex (width + 1) n).length = width + 1 := by
  have short := length_hexDigits_le fits
  rw [paddedHex, List.length_append, List.length_replicate]
  omega

end CompileTree.Text
