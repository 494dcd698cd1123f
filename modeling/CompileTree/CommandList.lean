import CompileTree.Json
import CompileTree.Shell.Words

/-! # Command lists

The commands of a tree as they are kept between the runs that write and use
them: a JSON array with one object for each command. Reading accepts any order
of the keys, passes over keys it does not know, and also accepts an array of the
four texts in place of an object.
-/

namespace CompileTree

/-- How one file is compiled. -/
structure Command where
  /-- Where the command is meant to run. -/
  directory : String
  /-- The quoted words of the command. -/
  line : String
  /-- The declared output. -/
  output : String
  /-- The source. -/
  file : String
  deriving DecidableEq, Repr

namespace Command

/-- The words of a command; none if its quoting is malformed. -/
def words? (c : Command) : Option (List String) := Shell.split? c.line

/-- The keys of a command with their texts, in the order in which they are written. -/
def fields (c : Command) : List (String × String) :=
  [("directory", c.directory), ("command", c.line), ("output", c.output), ("file", c.file)]

/-- One member of a written command. -/
def writeField (field : String × String) : List Char :=
  "    ".toList ++ Json.writeString field.1 ++ [':', ' '] ++ Json.writeString field.2

/-- How a command is written. -/
def write (c : Command) : List Char :=
  "  \x7b\n".toList ++ [',', '\n'].intercalate (c.fields.map writeField) ++ "\n  \x7d".toList

/-- The members of an object under their keys, all of which have to be texts. -/
def named? (members : List (Option String × Json)) : Option (List (String × Json)) :=
  members.mapM fun (key, value) => key.map (·, value)

/-- The text under a key that has to occur exactly once. -/
def field? (key : String) (members : List (String × Json)) : Option String :=
  match members.filter (·.1 == key) with
  | [(_, .string text)] => text
  | _ => none

/-- The command that a value describes. -/
def ofJson? : Json → Option Command
  | .object members => do
    let members ← named? members
    let directory ← field? "directory" members
    let line ← field? "command" members
    let output ← field? "output" members
    let file ← field? "file" members
    return { directory, line, output, file }
  | .array [.string (some directory), .string (some line), .string (some output),
      .string (some file)] =>
    some { directory, line, output, file }
  | _ => none

end Command

namespace CommandList

/-- How a list of commands is written. -/
def write (commands : List Command) : List Char :=
  match commands with
  | [] => ['[', ']']
  | commands =>
    ['[', '\n'] ++ [',', '\n'].intercalate (commands.map Command.write) ++ ['\n', ']']

/-- The text of a list of commands. -/
def toText (commands : List Command) : String := String.ofList (write commands)

/-- The list of commands that a text holds. -/
def ofText? (text : String) : Option (List Command) :=
  match Json.ofText? text with
  | some (.array items) => items.mapM Command.ofJson?
  | _ => none

end CommandList

end CompileTree
