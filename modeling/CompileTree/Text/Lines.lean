/-! # Blanks and lines

The blanks are the characters with the Unicode property White_Space. Zero-width
spaces, the byte order mark and the information separators are not among them.

A line ends with a line feed, which may follow a carriage return; the last line
may lack its end, and then a carriage return belongs to it.
-/

namespace CompileTree.Text

/-- The code points with the property White_Space. -/
def isBlank (c : Char) : Bool :=
  let n := c.toNat
  (0x9 ≤ n && n ≤ 0xD) || n == 0x20 || n == 0x85 || n == 0xA0 || n == 0x1680 ||
    (0x2000 ≤ n && n ≤ 0x200A) || n == 0x2028 || n == 0x2029 || n == 0x202F ||
    n == 0x205F || n == 0x3000

/-- Drop the longest run of characters satisfying `p` from the end. -/
def dropRight (p : Char → Bool) (cs : List Char) : List Char :=
  (cs.reverse.dropWhile p).reverse

/-- Drop the characters satisfying `p` from both ends. -/
def strip (p : Char → Bool) (cs : List Char) : List Char :=
  dropRight p (cs.dropWhile p)

/-- Drop the blanks from both ends. -/
def trim (cs : List Char) : List Char := strip isBlank cs

/-- Drop `suffix` from the end as often as it stands there. -/
def dropSuffixes (suffix : List Char) (cs : List Char) : List Char :=
  go cs.length cs.reverse
where
  go : Nat → List Char → List Char
    | 0, rev => rev.reverse
    | n + 1, rev =>
      match suffix.reverse.isPrefixOf? rev with
      | some rest => go n rest
      | none => rev.reverse

theorem isBlank_of_isWhitespace {c : Char} (h : c.isWhitespace = true) : isBlank c = true := by
  simp only [Char.isWhitespace, Bool.or_eq_true, decide_eq_true_eq] at h
  rcases h with ((rfl | rfl) | rfl) | rfl <;> decide

@[simp] theorem dropRight_nil (p : Char → Bool) : dropRight p [] = [] := rfl

@[simp] theorem trim_nil : trim [] = [] := rfl

/-! ## Lines -/

/-- The lines of a text without their ends. A text that ends a line has no
    empty line after it. -/
def lines : List Char → List (List Char)
  | [] => []
  | '\n' :: cs => [] :: lines cs
  | '\r' :: '\n' :: cs => [] :: lines cs
  | c :: cs =>
    match lines cs with
    | [] => [[c]]
    | l :: ls => (c :: l) :: ls

@[simp] theorem lines_nil : lines [] = [] := rfl

@[simp] theorem lines_lineFeed (cs : List Char) : lines ('\n' :: cs) = [] :: lines cs := rfl

end CompileTree.Text
