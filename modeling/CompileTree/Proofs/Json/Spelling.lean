import CompileTree.Json
import CompileTree.Text.Hex

/-! # Texts and the units they spell

A text spells some units when they are what is read from it, whatever comes
behind. Texts that spell units are put together as the units are; a written string
spells that string.
-/

namespace CompileTree.Json

/-! ## Strings -/

theorem stringBody_escape {e c : Char} (cs : List Char) (escape : escaped? e = some c) :
    stringBody ('\\' :: e :: cs) = (stringBody cs).map fun read => (.char c :: read.1, read.2) := by
  have notNumber : e ≠ 'u' := by
    rintro rfl
    cases escape
  rw [stringBody, escape]
  · cases stringBody cs <;> rfl
  · intro _ _ _ _ _ number
    exact absurd number notNumber

theorem stringBody_number {digits : List Char} {n : Nat} (cs : List Char)
    (length : digits.length = 4) (value : Text.hexNumber? digits = some n) :
    stringBody ('\\' :: 'u' :: digits ++ cs) =
      (stringBody cs).map fun read => (Piece.ofNumber n :: read.1, read.2) := by
  match digits, length with
  | [a, b, c, d], _ =>
      rw [List.cons_append, List.cons_append, List.cons_append, List.cons_append, List.cons_append,
        List.cons_append, List.nil_append, stringBody, value]
      cases stringBody cs <;> rfl

theorem stringBody_literal {c : Char} (cs : List Char) (notQuote : c ≠ '"') (notBackslash : c ≠ '\\')
    (printed : ¬ c.toNat < 0x20) :
    stringBody (c :: cs) = (stringBody cs).map fun read => (.char c :: read.1, read.2) := by
  rw [stringBody, if_neg (by simp [printed, notBackslash])]
  all_goals simp [notQuote, notBackslash]

/-- A written character is read as itself. -/
theorem stringBody_writeChar (c : Char) (cs : List Char) :
    stringBody (writeChar c ++ cs) =
      (stringBody cs).map fun read => (.char c :: read.1, read.2) := by
  rw [writeChar.eq_def]
  split
  case h_8 notQuote notBackslash _ _ _ _ _ =>
    split
    · next control =>
        have small : c.toNat < Nat.pow 16 (3 + 1) := Nat.lt_trans control (by decide)
        have itself : Piece.ofNumber c.toNat = .char c := by
          rw [Piece.ofNumber, if_neg (by omega), Char.ofNat_toNat]
        rw [stringBody_number cs (Text.length_paddedHex small) (Text.hexNumber?_paddedHex 4 _), itself]
    · next printed => exact stringBody_literal cs notQuote notBackslash printed
  all_goals exact stringBody_escape cs rfl

theorem stringBody_write (text cs : List Char) :
    stringBody (text.flatMap writeChar ++ '"' :: cs) = some (text.map .char, cs) := by
  induction text with
  | nil => rfl
  | cons c text ih =>
      rw [List.flatMap_cons, List.append_assoc, stringBody_writeChar, ih, List.map_cons]
      rfl

theorem joinPairs_map_char (text : List Char) : joinPairs (text.map .char) = some text := by
  induction text with
  | nil => rw [List.map_nil, joinPairs]
  | cons c text ih => rw [List.map_cons, joinPairs, ih, Option.map_some]

theorem token?_writeString (text : String) (cs : List Char) :
    token? (writeString text ++ cs) = some (.string (some text), cs) := by
  have whole : (joinPairs (text.toList.map .char)).map String.ofList = some text := by
    rw [joinPairs_map_char, Option.map_some, String.ofList_toList]
  rw [writeString, List.cons_append, List.cons_append, List.append_assoc, List.singleton_append,
    token?, stringBody_write, Option.map_some]
  simp only [whole]

/-! ## Units -/

theorem tokensWithin_succ (fuel : Nat) (cs : List Char) :
    tokensWithin (fuel + 1) cs =
      match cs.dropWhile isSpace with
      | [] => some []
      | cs =>
        match token? cs with
        | some (t, rest) => (tokensWithin fuel rest).map (t :: ·)
        | none => none := rfl

/-- The units that are read from a text, with any fuel that its length allows for. -/
def Reads (cs : List Char) (ts : List Token) : Prop :=
  ∀ fuel, cs.length < fuel → tokensWithin fuel cs = some ts

/-- A text whose units stand before those of whatever comes behind it. -/
def Spells (cs : List Char) (ts : List Token) : Prop :=
  ∀ rest us, Reads rest us → Reads (cs ++ rest) (ts ++ us)

section Spelling

variable {cs ds : List Char} {ts us : List Token}

theorem Spells.nil : Spells [] [] := fun _ _ h => h

theorem Spells.append (h : Spells cs ts) (h' : Spells ds us) : Spells (cs ++ ds) (ts ++ us) := by
  intro rest vs hrest
  rw [List.append_assoc, List.append_assoc]
  exact h _ _ (h' _ _ hrest)

theorem Spells.blank {c : Char} (h : Spells cs ts) (blank : isSpace c = true) : Spells (c :: cs) ts := by
  intro rest vs hrest fuel enough
  have read := h rest vs hrest fuel (by simp at enough ⊢; omega)
  cases fuel with
  | zero => cases enough
  | succ fuel =>
      rw [List.cons_append, tokensWithin_succ, List.dropWhile_cons_of_pos blank]
      rwa [tokensWithin_succ] at read

/-- A text from which one unit is read spells that unit. -/
theorem Spells.unit {t : Token} {c : Char} (start : isSpace c = false)
    (read : ∀ rest, token? (c :: cs ++ rest) = some (t, rest)) : Spells (c :: cs) [t] := by
  intro rest us hrest fuel enough
  cases fuel with
  | zero => cases enough
  | succ fuel =>
      have left : rest.length < fuel := by
        simp at enough
        omega
      have unit := read rest
      rw [List.cons_append] at unit ⊢
      rw [tokensWithin_succ, List.dropWhile_cons_of_neg (by simp [start])]
      simp [unit, hrest fuel left]

theorem spells_writeString (text : String) : Spells (writeString text) [.string (some text)] :=
  .unit rfl (token?_writeString text)

/-- What a text spells is what is read from it. -/
theorem Spells.tokens (h : Spells cs ts) : tokens cs = some ts := by
  have nothing : Reads [] [] := by
    intro fuel enough
    cases fuel with
    | zero => cases enough
    | succ fuel => rfl
  have read := h [] [] nothing
  rw [List.append_nil, List.append_nil] at read
  exact read _ (Nat.lt_succ_self _)

/-- Texts with a separator between them spell their units with that of the separator
    between them. -/
theorem spells_intercalate {α : Type} {separator : List Char} {t : Token} {text : α → List Char}
    {units : α → List Token} (hseparator : Spells separator [t])
    (h : ∀ a, Spells (text a) (units a)) (items : List α) :
    Spells (separator.intercalate (items.map text)) ([t].intercalate (items.map units)) := by
  match items with
  | [] => exact .nil
  | [a] => simpa using h a
  | a :: b :: items =>
      have rest := spells_intercalate hseparator h (b :: items)
      rw [List.map_cons, List.map_cons] at rest
      rw [List.map_cons, List.map_cons, List.intercalate_cons_cons, List.map_cons, List.map_cons,
        List.intercalate_cons_cons]
      exact ((h a).append hseparator).append rest

end Spelling

end CompileTree.Json
