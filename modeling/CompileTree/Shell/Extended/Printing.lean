import CompileTree.Shell.Extended.Lines

/-! # Commands as text

Commands as they are shown: in one line where they are told of, and in lines of their own
within functions.
-/

namespace CompileTree.Shell.Extended.Printing

/-- Text behind which a command may be closed. -/
def closed (text : String) : String :=
  match text.toList.getLast? with
  | some '&' | some '\n' => text
  | _ => text ++ ";"

/-- A new line with so much room before its text. -/
def line (indent : Nat) (text : String) : String := "\n" ++ "".pushn ' ' indent ++ text

/-- The descriptor before the sign of a redirection. -/
def handle (otherwise : Nat) : Handle → String
  | .number n => if n = otherwise then "" else toString n
  | .chosen name => "\x7b" ++ name ++ "\x7d"

/-- The descriptor that is told in any case. -/
def anyHandle : Handle → String
  | .number n => toString n
  | .chosen name => "\x7b" ++ name ++ "\x7d"

/-- A redirection as text. -/
def redirection : Redirection → String
  | .file h .read w => handle 0 h ++ "< " ++ w.spelling
  | .file h .update w => handle 0 h ++ "<> " ++ w.spelling
  | .file h .write w => handle 1 h ++ "> " ++ w.spelling
  | .file h .force w => handle 1 h ++ ">| " ++ w.spelling
  | .file h .append w => handle 1 h ++ ">> " ++ w.spelling
  | .both appends w => (if appends then "&>> " else "&> ") ++ w.spelling
  | .copy h reads w => anyHandle h ++ (if reads then "<&" else ">&") ++ w.spelling
  | .document h number => handle 0 h ++ "<<" ++ toString number
  | .inline h w => handle 0 h ++ "<<< " ++ w.spelling

/-- A condition as text. -/
def condition : Condition → String
  | .ask question w => question ++ " " ++ w.spelling
  | .compare a sign b => a.spelling ++ " " ++ sign ++ " " ++ b.spelling
  | .negated c => "! " ++ condition c
  | .both a b => condition a ++ " && " ++ condition b
  | .either a b => condition a ++ " || " ++ condition b
  | .grouped c => "( " ++ condition c ++ " )"

/-- The words of a loop. -/
def items : Option (List Word) → String
  | some ws => " ".intercalate (ws.map Word.spelling)
  | none => "\"$@\""

/-- What ends a case. -/
def ending : CaseEnd → String
  | .stop => ";;"
  | .fall => ";&"
  | .test => ";;&"

/-- The redirections behind a command. -/
def redirections (rs : List Redirection) : String :=
  String.join (rs.map fun r => " " ++ redirection r)

/-- The name of a function with what follows it. -/
def head (name : String) : String := name ++ " () "

mutual

/-- A command as text, of which other lines get so much room; `inFunction` tells whether it
    stands within a function, and `step` how much more room what stands within it gets. -/
def statement (step : Nat) (inFunction : Bool) (indent : Nat) : Statement → String
  | .nothing => ""
  | .simple _ assignments arguments rs =>
    let words := assignments.map (fun (.of spelling ..) => spelling) ++
      arguments.map Argument.spelling
    match words with
    | [] => ((redirections rs).drop 1).copy
    | words => " ".intercalate words ++ redirections rs
  | .pipeline cs => " | ".intercalate (statements step inFunction indent cs)
  | .negated c => "! " ++ statement step inFunction indent c
  | .timed brief c => (if brief then "time -p " else "time ") ++ statement step inFunction indent c
  | .sequence apart a b =>
    let first := statement step inFunction indent a
    let isOpen := first.toList.getLast? == some '&'
    let second := statement step inFunction indent b
    if isOpen then first ++ " " ++ second
    else if inFunction then first ++ ";" ++ line indent second
    else if apart then first ++ "\n" ++ second
    else first ++ "; " ++ second
  | .both a b => statement step inFunction indent a ++ " && " ++ statement step inFunction indent b
  | .either a b => statement step inFunction indent a ++ " || " ++ statement step inFunction indent b
  | .partner name c => "coproc " ++ name ++ " " ++ statement step inFunction indent c
  | .background c => statement step inFunction indent c ++ " &"
  | .branch test yes no =>
    let start := "if " ++ closed (statement step inFunction indent test) ++ " then" ++
      line (indent + step) (closed (statement step inFunction (indent + step) yes))
    match no with
    | none => start ++ line indent "fi"
    | some no =>
      start ++ line indent "else" ++
        line (indent + step) (closed (statement step inFunction (indent + step) no)) ++ line indent "fi"
  | .loop whileFailing test body =>
    (if whileFailing then "until " else "while ") ++ closed (statement step inFunction indent test) ++
      " do" ++ line (indent + step) (closed (statement step inFunction (indent + step) body)) ++
      line indent "done"
  | .each _ name given body =>
    "for " ++ name ++ " in " ++ items given ++ ";" ++ line indent "do" ++
      line (indent + step) (closed (statement step inFunction (indent + step) body)) ++
      line indent "done"
  | .menu _ name given body =>
    "select " ++ name ++ " in " ++ items given ++ ";" ++ line indent "do" ++
      line (indent + step) (closed (statement step inFunction (indent + step) body)) ++
      line indent "done"
  | .count _ start test next body =>
    "for ((" ++ start.spelling ++ "; " ++ test.spelling ++ "; " ++ next.spelling ++ "))" ++
      line indent "do" ++
      line (indent + step) (closed (statement step inFunction (indent + step) body)) ++
      line indent "done"
  | .select _ subject cases =>
    "case " ++ subject.spelling ++ " in " ++ allCases step inFunction indent cases ++ line indent "esac"
  | .group c =>
    if inFunction then
      "\x7b " ++ line (indent + step) (statement step inFunction (indent + step) c) ++ line indent "\x7d"
    else "\x7b " ++ closed (statement step inFunction indent c) ++ " \x7d"
  | .subshell _ c => "( " ++ statement step inFunction indent c ++ " )"
  | .expression _ text => "((" ++ text.spelling ++ "))"
  | .condition _ c => "[[ " ++ condition c ++ " ]]"
  | .redirected c rs => statement step inFunction indent c ++ redirections rs
  | .define _ name (.group c) =>
    "function " ++ head name ++ line indent "\x7b " ++
      line (indent + step) (statement step true (indent + step) c) ++ line indent "\x7d"
  | .define _ name body =>
    "function " ++ head name ++ line indent "\x7b " ++
      line (indent + step) (statement step true (indent + step) body) ++ line indent "\x7d"

/-- Commands as texts. -/
def statements (step : Nat) (inFunction : Bool) (indent : Nat) : List Statement → List String
  | [] => []
  | c :: cs => statement step inFunction indent c :: statements step inFunction indent cs

/-- The cases of a distinction as text. -/
def allCases (step : Nat) (inFunction : Bool) (indent : Nat) : List Case → String
  | [] => ""
  | .of patterns body end_ :: cs =>
    let text := statement step inFunction (indent + 2 * step) body
    line (indent + step) (" | ".intercalate (patterns.map Word.spelling) ++ ")") ++
      line (indent + 2 * step) text ++ line (indent + step) (ending end_) ++
      allCases step inFunction indent cs

end

/-- A command in one text. -/
def command (c : Statement) : String := statement 4 false 0 c

/-- What stands between the braces of a function, and the redirections behind them. -/
def insides : Statement → Statement × String
  | .redirected (.group c) rs => (c, redirections rs)
  | .group c => (c, "")
  | c => (c, "")

/-- A function as a text that defines it. -/
def function (name : String) (body : Statement) : String :=
  let (c, rs) := insides body
  head name ++ "\n\x7b \n" ++ "".pushn ' ' 4 ++ statement 4 true 4 c ++ "\n\x7d" ++ rs

/-- A function as a value that other shells can take over. -/
def handedOn (body : Statement) : String :=
  let (c, rs) := insides body
  "() \x7b  " ++ statement 0 true 1 c ++ "\n\x7d" ++ rs

end CompileTree.Shell.Extended.Printing
