import CompileTree.CommandList
import CompileTree.Proofs.Json.Spelling

/-! # What is written of commands is read back

A written list of commands spells the units of an array of objects. These units are
read as the values they were made from, with any fuel that covers their nesting,
and every such value describes the command it was made of.
-/

namespace CompileTree

open Json

namespace Command

/-- The units of a member. -/
def fieldUnits (field : String × String) : List Token :=
  [.string (some field.1), .colon, .string (some field.2)]

/-- The units of a command. -/
def units (c : Command) : List Token :=
  .openBrace :: [.comma].intercalate (c.fields.map fieldUnits) ++ [.closeBrace]

/-- A member as a value. -/
def member (field : String × String) : Option String × Json := (some field.1, .string (some field.2))

/-- A command as a value. -/
def json (c : Command) : Json := .object (c.fields.map member)

theorem spells_comma : Spells [',', '\n'] [.comma] := by
  have comma : Spells [','] [.comma] := .unit rfl fun _ => rfl
  exact comma.append (Spells.nil.blank rfl)

theorem spells_writeField (field : String × String) : Spells (writeField field) (fieldUnits field) := by
  have key : Spells ("    ".toList ++ writeString field.1) [.string (some field.1)] :=
    (((spells_writeString field.1).blank rfl).blank rfl).blank rfl |>.blank rfl
  have colon : Spells [':'] [.colon] := .unit rfl fun _ => rfl
  exact (key.append (colon.append (Spells.nil.blank rfl))).append (spells_writeString field.2)

theorem spells_write (c : Command) : Spells c.write c.units := by
  have start : Spells "  \x7b\n".toList [.openBrace] := by
    have brace : Spells ['\x7b'] [.openBrace] := .unit rfl fun _ => rfl
    exact ((brace.append (Spells.nil.blank rfl)).blank rfl).blank rfl
  have done : Spells "\n  \x7d".toList [.closeBrace] := by
    have brace : Spells ['\x7d'] [.closeBrace] := .unit rfl fun _ => rfl
    exact ((brace.blank rfl).blank rfl).blank rfl
  exact (start.append (spells_intercalate spells_comma spells_writeField c.fields)).append done

/-! ## Reading values -/

theorem value?_string (fuel : Nat) (text : Option String) (rest : List Token) :
    value? (fuel + 1) (.string text :: rest) = some (.string text, rest) := by
  rw [value?]

/-- The members of an object are read up to its end. -/
theorem members?_units (field : String × String) (fields : List (String × String)) {fuel : Nat}
    (enough : fields.length + 1 < fuel) (rest : List Token) :
    members? fuel ([.comma].intercalate ((field :: fields).map fieldUnits) ++ .closeBrace :: rest) =
      some ((field :: fields).map member, rest) := by
  induction fields generalizing field fuel with
  | nil =>
      match fuel, enough with
      | fuel + 2, _ =>
          rw [List.map_singleton, List.intercalate_singleton, fieldUnits, List.cons_append,
            List.cons_append, members?, List.cons_append, List.nil_append, value?_string]
          rfl
  | cons next fields ih =>
      match fuel, enough with
      | fuel + 2, enough =>
          have left : fields.length + 1 < fuel + 1 := by simpa using enough
          have more := ih next left
          rw [List.map_cons] at more
          rw [List.map_cons, List.map_cons, List.intercalate_cons_cons, fieldUnits,
            List.append_assoc, List.append_assoc, List.cons_append, List.cons_append, members?,
            List.cons_append, List.nil_append, value?_string, List.singleton_append]
          simp only [more]
          rfl

/-- A command takes three units for each member, and those between and around them. -/
theorem length_units (c : Command) : c.units.length = 17 := rfl

theorem value?_units {fuel : Nat} (enough : 5 < fuel) (c : Command) (rest : List Token) :
    value? fuel (c.units ++ rest) = some (c.json, rest) := by
  match fuel, enough with
  | fuel + 1, enough =>
      have members : members? fuel ([.comma].intercalate (c.fields.map fieldUnits) ++
          .closeBrace :: rest) = some (c.fields.map member, rest) :=
        members?_units _ c.fields.tail (by simp [fields]; omega) rest
      have split : c.units ++ rest =
          .openBrace :: ([.comma].intercalate (c.fields.map fieldUnits) ++ .closeBrace :: rest) := by
        simp [units]
      rw [split, value?]
      · simp only [members]
        rfl
      · intro ts closed
        cases closed

/-- A value made of a command describes it. -/
theorem ofJson?_json (c : Command) : ofJson? c.json = some c := by
  have named : named? (c.fields.map member) =
      some (c.fields.map fun field => (field.1, .string (some field.2))) := rfl
  rw [json, ofJson?, named]
  rfl

end Command

namespace CommandList

/-- The units of a list of commands. -/
def units (commands : List Command) : List Token :=
  .openBracket :: [.comma].intercalate (commands.map Command.units) ++ [.closeBracket]

theorem spells_write (commands : List Command) : Spells (write commands) (units commands) := by
  have start : Spells ['['] [.openBracket] := .unit rfl fun _ => rfl
  have done : Spells [']'] [.closeBracket] := .unit rfl fun _ => rfl
  cases commands with
  | nil => exact start.append done
  | cons c cs =>
      have items := spells_intercalate Command.spells_comma Command.spells_write (c :: cs)
      exact ((start.append (Spells.nil.blank rfl)).append items).append (done.blank rfl)

/-! ## Reading lists -/

theorem length_items (commands : List Command) :
    17 * commands.length ≤ ([.comma].intercalate (commands.map Command.units)).length := by
  match commands with
  | [] => simp
  | [c] => simp [Command.length_units]
  | c :: d :: commands =>
      have rest := length_items (d :: commands)
      rw [List.map_cons] at rest
      rw [List.map_cons, List.map_cons, List.intercalate_cons_cons, List.length_append,
        List.length_append, Command.length_units, List.length_cons]
      omega

/-- The items of an array are read up to its end. -/
theorem items?_units (c : Command) (commands : List Command) {fuel : Nat}
    (enough : commands.length + 6 < fuel) (rest : List Token) :
    items? fuel ([.comma].intercalate ((c :: commands).map Command.units) ++ .closeBracket :: rest) =
      some ((c :: commands).map Command.json, rest) := by
  induction commands generalizing c fuel with
  | nil =>
      match fuel, enough with
      | fuel + 1, enough =>
          have first := Command.value?_units (Nat.lt_of_succ_lt_succ enough) c
          rw [List.map_singleton, List.intercalate_singleton, items?, first]
          rfl
  | cons next commands ih =>
      match fuel, enough with
      | fuel + 1, enough =>
          have left : commands.length + 6 < fuel := by
            rw [List.length_cons] at enough
            omega
          have large : 5 < fuel := by omega
          have first := Command.value?_units large c
          have more := ih next left
          rw [List.map_cons] at more
          rw [List.map_cons, List.map_cons, List.intercalate_cons_cons, List.append_assoc,
            List.append_assoc, items?, first, List.singleton_append]
          simp only [more]
          rfl

theorem value?_units (commands : List Command) :
    value? (2 * (units commands).length + 1) (units commands) =
      some (.array (commands.map Command.json), []) := by
  cases commands with
  | nil => rfl
  | cons c commands =>
      have long := length_items (c :: commands)
      have length : (units (c :: commands)).length =
          ([.comma].intercalate ((c :: commands).map Command.units)).length + 2 := by
        simp [units]
      have items : items? (2 * (units (c :: commands)).length)
          ([.comma].intercalate ((c :: commands).map Command.units) ++ [.closeBracket]) =
            some ((c :: commands).map Command.json, []) :=
        items?_units c commands (by rw [List.length_cons] at long; omega) []
      rw [units, List.cons_append, value?]
      · rw [units, List.cons_append] at items
        simp only [items]
        rfl
      · intro ts closed
        cases commands <;> cases closed

theorem mapM_ofJson? (commands : List Command) :
    (commands.map Command.json).mapM Command.ofJson? = some commands := by
  induction commands with
  | nil => rfl
  | cons c commands ih => simp [Command.ofJson?_json, ih]

/-- A list of commands is read back from its text as it was, whatever stands in it,
    so that no two lists have the same text. -/
theorem ofText?_toText :
    (∀ commands, ofText? (toText commands) = some commands) ∧ Function.Injective toText := by
  have back (commands : List Command) : ofText? (toText commands) = some commands := by
    rw [ofText?, Json.ofText?, toText, String.toList_ofList, (spells_write commands).tokens]
    simp only [value?_units, mapM_ofJson?]
  refine ⟨back, fun commands others same => ?_⟩
  have found := back commands
  rw [same, back others] at found
  exact (Option.some.inj found).symm

end CommandList

end CompileTree
