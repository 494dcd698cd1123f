import CompileTree.Shell.Utility.Regex

/-! # Programs that treat records

A program says what is done with every record that its patterns choose. Its parts are
expressions, statements, rules and functions.
-/

namespace CompileTree.Shell.Records

open Utility (Regex)

/-- How two numbers are taken together. -/
inductive Operation where
  | add
  | subtract
  | multiply
  | divide
  | remainder
  | power
  deriving DecidableEq, Repr

/-- How two values are compared. -/
inductive Comparison where
  | less
  | atMost
  | equal
  | unequal
  | greater
  | atLeast
  deriving DecidableEq, Repr

/-- The functions that every program has. -/
inductive Function where
  | length
  | substr
  | index
  | split
  | match_
  | sub
  | gsub
  | sprintf
  | toLower
  | toUpper
  | sin
  | cos
  | atan2
  | exp
  | log
  | sqrt
  | int
  | rand
  | srand
  | system
  | close
  | flush
  | now
  | formatTime
  | makeTime
  deriving DecidableEq, Repr

mutual

/-- What can be given a value. -/
inductive Place where
  | variable_ (name : String)
  | element (array : String) (subscripts : List Expression)
  | field (number : Expression)

/-- Where a line is read from. -/
inductive LineSource where
  /-- The files of the program. -/
  | main
  | file (name : Expression)
  | command (text : Expression)

/-- An expression. -/
inductive Expression where
  | number (x : Float)
  | text (s : String)
  /-- Whether the record matches. -/
  | pattern (r : Regex)
  | value (p : Place)
  /-- Give a value to a place, or what comes of its own value and that one. -/
  | assign (p : Place) (operation : Option Operation) (e : Expression)
  /-- Count up or down; the value is that before or that after it. -/
  | count (p : Place) (up before : Bool)
  | operate (operation : Operation) (a b : Expression)
  | negative (e : Expression)
  | positive (e : Expression)
  | not (e : Expression)
  | compare (c : Comparison) (a b : Expression)
  | join (a b : Expression)
  | both (a b : Expression)
  | either (a b : Expression)
  | choose (condition yes no : Expression)
  | matches (negated : Bool) (subject pattern : Expression)
  /-- Whether an array has an element. -/
  | hasElement (subscripts : List Expression) (array : String)
  | apply (f : Function) (arguments : List Expression)
  /-- Call a function of the program. -/
  | call (name : String) (arguments : List Expression)
  | readLine (source : LineSource) (target : Option Place)

end

/-- Where output goes that does not go to the output of the program. -/
inductive Redirection where
  | file
  | append
  | command
  deriving DecidableEq, Repr

/-- A statement. -/
inductive Statement where
  | evaluate (e : Expression)
  /-- Write values, with a format or as they are. -/
  | print (formatted : Bool) (values : List Expression)
      (target : Option (Redirection × Expression))
  | block (statements : List Statement)
  | choose (condition : Expression) (yes no : Statement)
  | repeatWhile (condition : Expression) (body : Statement)
  | repeatUntilNot (body : Statement) (condition : Expression)
  | repeatFor (start : Option Expression) (condition : Option Expression)
      (step : Option Expression) (body : Statement)
  | forEach (name array : String) (body : Statement)
  | next
  | nextFile
  | exit (status : Option Expression)
  | return_ (value : Option Expression)
  | break_
  | continue_
  | delete (array : String) (subscripts : List Expression)

/-- When a rule applies. -/
inductive Pattern where
  | begin_
  | end_
  | always
  | when_ (e : Expression)
  /-- From a record for which one holds up to one for which another one holds. -/
  | range (number : Nat) (first last : Expression)

/-- What is done with some of the records. -/
structure Rule where
  pattern : Pattern
  action : Statement

/-- A function of a program. -/
structure Definition where
  parameters : List String
  body : Statement

/-- A program that treats records. -/
structure Program where
  rules : List Rule
  functions : List (String × Definition)

end CompileTree.Shell.Records
