import CompileTree.Glob

/-! # Expressions as they are written

How a matching engine reads the few constructs that globs are written with, and
what it finds with them: groups, some of which let a dot cover line ends,
alternatives, the anchors `\A` and `\z`, single characters, escaped ones, `[^/]`,
dots, and `*` and `?` behind them.
-/

namespace CompileTree.Glob

/-- An expression as a matching engine reads it. -/
inductive Expression where
  | nothing
  | place (k : CharClass)
  /-- A dot that does not cover line ends. -/
  | lineDot
  | repeated (e : Expression)
  | optional (e : Expression)
  | both (a b : Expression)
  | either (a b : Expression)
  /-- The place before the first character. -/
  | start
  /-- The place behind the last character. -/
  | finish
  deriving DecidableEq, Repr

namespace Expression

/-- The expression matches `found` where `before` precedes it and `after` follows. -/
inductive Finds : (e : Expression) → (before found after : List Char) → Prop where
  | nothing {b a} : Finds .nothing b [] a
  | place {k c b a} : k.has c = true → Finds (.place k) b [c] a
  | lineDot {c b a} : c ≠ '\n' → Finds .lineDot b [c] a
  | stop {e b a} : Finds (.repeated e) b [] a
  | again {e b u v a} : Finds e b u (v ++ a) → Finds (.repeated e) (b ++ u) v a →
      Finds (.repeated e) b (u ++ v) a
  | skip {e b a} : Finds (.optional e) b [] a
  | take {e b u a} : Finds e b u a → Finds (.optional e) b u a
  | both {e f b u v a} : Finds e b u (v ++ a) → Finds f (b ++ u) v a → Finds (.both e f) b (u ++ v) a
  | left {e f b u a} : Finds e b u a → Finds (.either e f) b u a
  | right {e f b u a} : Finds f b u a → Finds (.either e f) b u a
  | start {a} : Finds .start [] [] a
  | finish {b} : Finds .finish b [] []

/-- The expression matches somewhere in the text. -/
def IsMatch (e : Expression) (text : List Char) : Prop :=
  ∃ before found after, text = before ++ found ++ after ∧ e.Finds before found after

/-- Expressions one after the other. -/
def sequence (es : List Expression) : Expression := es.foldr .both .nothing

/-! ## Reading -/

/-- What was read of a group. -/
structure Level where
  dotAll : Bool
  /-- The alternatives before the current one, last first. -/
  choices : List Expression
  /-- The expressions of the current alternative, last first. -/
  row : List Expression

namespace Level

/-- Nothing read yet. -/
def fresh (dotAll : Bool) : Level := ⟨dotAll, [], []⟩

def add (l : Level) (e : Expression) : Level := { l with row := e :: l.row }

def nextChoice (l : Level) : Level :=
  { l with choices := sequence l.row.reverse :: l.choices, row := [] }

/-- The expression that a group holds. -/
def whole (l : Level) : Expression :=
  l.choices.foldl (fun e choice => .either choice e) (sequence l.row.reverse)

/-- Put the last expression under `*` or `?`, unless it already is. -/
def amend? (l : Level) (f : Expression → Expression) : Option Level :=
  match l.row with
  | [] | .repeated _ :: _ | .optional _ :: _ => none
  | e :: row => some { l with row := f e :: row }

end Level

/-- Read a text inside of the groups `outer`; nothing when it uses other constructs
    or its groups are not closed. -/
def read (l : Level) (outer : List Level) : List Char → Option Expression
  | [] => if outer.isEmpty then some l.whole else none
  | '\\' :: 'A' :: cs => read (l.add .start) outer cs
  | '\\' :: 'z' :: cs => read (l.add .finish) outer cs
  | '\\' :: c :: cs =>
      if c ∈ CharClass.special then read (l.add (.place (.only c))) outer cs else none
  | '(' :: '?' :: ':' :: cs => read (.fresh l.dotAll) (l :: outer) cs
  | '(' :: '?' :: 's' :: ':' :: cs => read (.fresh true) (l :: outer) cs
  | ')' :: cs =>
      match outer with
      | [] => none
      | around :: outer => read (around.add l.whole) outer cs
  | '[' :: '^' :: '/' :: ']' :: cs => read (l.add (.place .notSlash)) outer cs
  | '|' :: cs => read l.nextChoice outer cs
  | '.' :: cs => read (l.add (if l.dotAll then .place .any else .lineDot)) outer cs
  | '*' :: cs =>
      match l.amend? .repeated with
      | some l => read l outer cs
      | none => none
  | '?' :: cs =>
      match l.amend? .optional with
      | some l => read l outer cs
      | none => none
  | c :: cs => if c ∈ CharClass.special then none else read (l.add (.place (.only c))) outer cs

/-- The expression that a text spells. -/
def ofText? (text : List Char) : Option Expression := read (.fresh false) [] text

example : ofText? "\\A(?:a*|.)\\z".toList =
    some (.both .start (.both (.either (.both (.repeated (.place (.only 'a'))) .nothing)
      (.both .lineDot .nothing)) (.both .finish .nothing))) := by
  decide

/-! ## What is found -/

section Find

variable {e : Expression} {before found after : List Char}

theorem finds_sequence_cons {es : List Expression} :
    (sequence (e :: es)).Finds before found after ↔
      ∃ u v, found = u ++ v ∧ e.Finds before u (v ++ after) ∧
        (sequence es).Finds (before ++ u) v after := by
  constructor
  · intro h
    cases h with
    | both he hes => exact ⟨_, _, rfl, he, hes⟩
  · rintro ⟨u, v, rfl, he, hes⟩
    exact .both he hes

theorem finds_sequence_nil : (sequence []).Finds before found after ↔ found = [] := by
  constructor
  · rintro ⟨⟩
    rfl
  · rintro rfl
    exact .nothing

theorem finds_sequence_append {es fs : List Expression} :
    (sequence (es ++ fs)).Finds before found after ↔
      ∃ u v, found = u ++ v ∧ (sequence es).Finds before u (v ++ after) ∧
        (sequence fs).Finds (before ++ u) v after := by
  induction es generalizing before found with
  | nil =>
      simp only [List.nil_append, finds_sequence_nil]
      constructor
      · exact fun h => ⟨[], found, rfl, rfl, by simpa using h⟩
      · rintro ⟨_, v, rfl, rfl, hv⟩
        simpa using hv
  | cons e es ih =>
      simp only [List.cons_append, finds_sequence_cons, ih]
      constructor
      · rintro ⟨u, _, rfl, hu, v, w, rfl, hv, hw⟩
        refine ⟨u ++ v, w, by simp, ⟨u, v, rfl, by simpa using hu, hv⟩, ?_⟩
        rwa [← List.append_assoc]
      · rintro ⟨_, w, rfl, ⟨u, v, rfl, hu, hv⟩, hw⟩
        refine ⟨u, v ++ w, by simp, by simpa using hu, v, w, rfl, hv, ?_⟩
        rwa [List.append_assoc]

theorem finds_sequence_singleton :
    (sequence [e]).Finds before found after ↔ e.Finds before found after := by
  rw [finds_sequence_cons]
  constructor
  · rintro ⟨u, v, rfl, hu, hv⟩
    obtain rfl := finds_sequence_nil.1 hv
    simpa using hu
  · exact fun h => ⟨found, [], by simp, h, .nothing⟩

theorem finds_whole {l : Level} :
    l.whole.Finds before found after ↔
      (∃ choice ∈ l.choices, choice.Finds before found after) ∨
        (sequence l.row.reverse).Finds before found after := by
  have fold : ∀ (choices : List Expression) (e : Expression),
      (choices.foldl (fun e choice => .either choice e) e).Finds before found after ↔
        (∃ choice ∈ choices, choice.Finds before found after) ∨ e.Finds before found after := by
    intro choices
    induction choices with
    | nil => simp
    | cons c cs ih =>
        intro e
        have head : (Expression.either c e).Finds before found after ↔
            c.Finds before found after ∨ e.Finds before found after := by
          constructor
          · rintro (_ | _)
            · exact .inl ‹_›
            · exact .inr ‹_›
          · rintro (h | h)
            · exact .left h
            · exact .right h
        rw [List.foldl_cons, ih, head]
        grind
  exact fold l.choices _

end Find

/-! ## Reading what was written -/

section Read

variable {l : Level} {outer : List Level} {cs : List Char}

theorem read_special {c : Char} (h : c ∈ CharClass.special) :
    read l outer ('\\' :: c :: cs) = read (l.add (.place (.only c))) outer cs := by
  simp only [CharClass.special, List.mem_cons, List.not_mem_nil, or_false] at h
  rcases h with rfl | rfl | rfl | rfl | rfl | rfl | rfl | rfl | rfl | rfl | rfl | rfl | rfl | rfl |
    rfl | rfl | rfl | rfl <;> rfl

theorem read_plain {c : Char} (h : c ∉ CharClass.special) :
    read l outer (c :: cs) = read (l.add (.place (.only c))) outer cs := by
  rw [read.eq_def]
  split
  all_goals simp_all [CharClass.special]

theorem read_dot : read l outer ('.' :: cs) =
    read (l.add (if l.dotAll then .place .any else .lineDot)) outer cs := rfl

theorem read_place {k : CharClass} (dotAll : l.dotAll = true) :
    read l outer (k.text ++ cs) = read (l.add (.place k)) outer cs := by
  cases k with
  | only c =>
      rw [CharClass.text]
      split
      · next h => exact read_special h
      · next h => exact read_plain h
  | notSlash => rfl
  | any =>
      rw [CharClass.text, List.singleton_append, read_dot, dotAll]
      rfl

theorem read_question {es : List Expression} :
    read (l.add (sequence es)) outer ('?' :: cs) = read (l.add (.optional (sequence es))) outer cs := by
  cases es <;> rfl

end Read

end Expression

namespace Regex

open Expression

/-- How an expression is read back. -/
def items : Regex → List Expression
  | .empty => []
  | .one k => [.place k]
  | .many k => [.repeated (.place k)]
  | .optional r => [.optional (sequence r.items)]
  | .seq a b => a.items ++ b.items

section Read

variable {l : Level} {outer : List Level} {cs : List Char}

theorem text_optional (r : Regex) : (optional r).text = '(' :: '?' :: ':' :: (r.text ++ [')', '?']) := rfl

theorem groupText_eq (r : Regex) : groupText r = '(' :: '?' :: 's' :: ':' :: (r.text ++ [')']) := rfl

theorem read_text (r : Regex) (l : Level) (outer : List Level) (cs : List Char)
    (dotAll : l.dotAll = true) :
    read l outer (r.text ++ cs) = read { l with row := r.items.reverse ++ l.row } outer cs := by
  induction r generalizing l outer cs with
  | empty => rfl
  | one k => exact read_place dotAll
  | many k =>
      rw [text, List.append_assoc, read_place dotAll]
      rfl
  | optional r ih =>
      have inside := ih (.fresh true) (l :: outer) (')' :: '?' :: cs) rfl
      have opened : read l outer ((optional r).text ++ cs) =
          read (.fresh true) (l :: outer) (r.text ++ [')', '?'] ++ cs) := by
        rw [text_optional, ← dotAll]
        rfl
      have whole : Level.whole ⟨true, [], r.items.reverse ++ []⟩ = sequence r.items := by
        simp [Level.whole]
      have closed : read ⟨true, [], r.items.reverse ++ []⟩ (l :: outer) (')' :: '?' :: cs) =
          read (l.add (sequence r.items)) outer ('?' :: cs) := by
        rw [← whole]
        rfl
      rw [opened, List.append_assoc]
      refine inside.trans (closed.trans ?_)
      exact read_question
  | seq a b iha ihb =>
      rw [text, List.append_assoc, iha _ _ _ dotAll,
        ihb { l with row := a.items.reverse ++ l.row } _ _ dotAll, items, List.reverse_append, List.append_assoc]

theorem read_groupText (r : Regex) :
    read l outer (groupText r ++ cs) = read (l.add (sequence r.items)) outer cs := by
  have inside := r.read_text (.fresh true) (l :: outer) (')' :: cs) rfl
  have opened : read l outer (groupText r ++ cs) =
      read (.fresh true) (l :: outer) (r.text ++ [')'] ++ cs) := by
    rw [groupText_eq]
    rfl
  have whole : Level.whole ⟨true, [], r.items.reverse ++ []⟩ = sequence r.items := by
    simp [Level.whole]
  have closed : read ⟨true, [], r.items.reverse ++ []⟩ (l :: outer) (')' :: cs) =
      read (l.add (sequence r.items)) outer cs := by
    rw [← whole]
    rfl
  rw [opened, List.append_assoc]
  exact inside.trans closed

end Read

theorem finds_repeated_place {k : CharClass} {before found after : List Char} :
    (Expression.repeated (.place k)).Finds before found after ↔ ∀ c ∈ found, k.has c = true := by
  constructor
  · intro h
    generalize he : Expression.repeated (.place k) = e at h
    induction h with
    | stop => simp
    | again hfirst _ _ ihrest =>
        cases he
        cases hfirst with
        | place hc => exact List.forall_mem_cons.2 ⟨hc, ihrest rfl⟩
    | _ => cases he
  · intro h
    induction found generalizing before with
    | nil => exact .stop
    | cons c found ih =>
        obtain ⟨hc, hall⟩ := List.forall_mem_cons.1 h
        exact .again (u := [c]) (.place hc) (ih hall)

/-- An expression read back finds what it matches. -/
theorem finds_items {r : Regex} {before found after : List Char} :
    (sequence r.items).Finds before found after ↔ r.Matches found := by
  induction r generalizing before found after with
  | empty =>
      rw [items, finds_sequence_nil]
      constructor
      · rintro rfl
        exact .empty
      · rintro ⟨⟩
        rfl
  | one k =>
      rw [items, finds_sequence_singleton]
      constructor
      · rintro ⟨⟩
        exact .one ‹_›
      · rintro ⟨⟩
        exact .place ‹_›
  | many k =>
      rw [items, finds_sequence_singleton, finds_repeated_place]
      constructor
      · exact .many
      · rintro ⟨⟩
        assumption
  | optional r ih =>
      rw [items, finds_sequence_singleton]
      constructor
      · intro h
        cases h with
        | skip => exact .skip
        | take h => exact .take (ih.1 h)
      · intro h
        cases h with
        | skip => exact .skip
        | take h => exact .take (ih.2 h)
  | seq a b iha ihb =>
      rw [items, finds_sequence_append]
      simp only [iha, ihb]
      constructor
      · rintro ⟨u, v, rfl, hu, hv⟩
        exact .seq hu hv
      · intro h
        cases h with
        | seq ha hb => exact ⟨_, _, rfl, ha, hb⟩

end Regex

end CompileTree.Glob
