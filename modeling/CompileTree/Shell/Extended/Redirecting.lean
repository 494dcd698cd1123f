import CompileTree.Shell.Extended.Assigning

/-! # Redirections

Where descriptors lead while a command runs. Redirections are followed one after the
other, and what they changed is brought back afterwards.
-/

namespace CompileTree.Shell.Extended.Redirecting

open Files Text Step

/-- A way in which a descriptor is changed. -/
inductive Route where
  | lead (descriptor index : Nat)
  | close (descriptor : Nat)
  deriving DecidableEq, Repr

/-- Let a descriptor lead where a route tells. -/
def Route.take : Route → Step Unit
  | .lead d index => changeProcess (·.withDescriptor d index)
  | .close d =>
    changeProcess fun p => { p with descriptors := p.descriptors.filter (·.1 != d) }

/-- The descriptor of a handle; one that is chosen is the first free one from ten on. -/
def descriptorOf : Handle → Step Nat
  | .number n => return n
  | .chosen _ => do
    let used := (← get).process.descriptors.map (·.1)
    return (((List.range (used.length + 1)).map (· + 10)).find? (!used.contains ·)).getD 10

/-- The descriptor that a handle stands for where it is copied or closed. -/
def openedBy : Handle → Step Nat
  | .number n => return n
  | .chosen name => do
    let value ← match Expansion.parameterOf? name with
      | some (p, subscript) => do
        match ← Expansion.found p subscript with
        | .one v => pure v
        | .many .. => pure none
      | none => pure none
    return Script.Reader.digitsValue (value.getD "").toList

/-- How a file is opened. -/
def modeOf (spares : Bool) : Access → OpenMode
  | .read => .read
  | .write => if spares then .fresh else .write
  | .force => .write
  | .append => .append
  | .update => .update

/-- Tell of a redirection that failed. -/
def refuse {α : Type} (text : String) : Step (Option α) := do
  named none (complain text)
  return none

/-- Open a file. -/
def openFile (name : String) (access : Access) : Step (Option Nat) := do
  let s ← get
  match ← perform (s.process.openFile name (modeOf (s.has "noclobber") access)) with
  | .ok index => return some index
  | .error .alreadyExists => refuse (name ++ ": cannot overwrite existing file")
  | .error e => refuse (name ++ ": " ++ e.text)

/-- The name of a file that a word stands for. -/
def nameOf (e : Runner) (w : Word) : Step (Option String) := do
  match ← e.fields w with
  | [name] => return some name
  | _ => refuse (w.spelling ++ ": ambiguous redirect")

/-- Note which descriptor was chosen for a handle. -/
def noteHandle (h : Handle) (d : Nat) : Step Unit := do
  match h with
  | .chosen name =>
    match Expansion.parameterOf? name with
    | some (.named base, some subscript) =>
      let key ← Values.keyOf base subscript
      Values.assign base (some key) (toString d) false
    | _ => Values.setText name (toString d)
  | .number _ => return

/-- Let a descriptor lead to an open file. -/
def leadTo (h : Handle) (index : Nat) : Step (Option (List Route)) := do
  let d ← descriptorOf h
  noteHandle h d
  return some [.lead d index]

/-- The routes of a redirection, if it succeeds. -/
def routesOf (e : Runner) : Redirection → Step (Option (List Route))
  | .file h access w => do
    let some name ← nameOf e w | return none
    let some index ← openFile name access | return none
    leadTo h index
  | .both appends w => do
    let some name ← nameOf e w | return none
    bothTo name appends
  | .document h number => do
    let ps := ((← get).documents.lookup number).getD []
    let text ← Expansion.textOfParts e.outside ps
    leadTo h (← perform (System.addDocument (toBytes text)))
  | .inline h w => do
    let text ← e.text w
    leadTo h (← perform (System.addDocument (toBytes (text ++ "\n"))))
  | .copy h reads w => do
    let some text ← nameOf e w | return none
    let cs := text.toList
    let digits := cs.takeWhile Char.isDigit
    let source := Script.Reader.digitsValue digits
    match digits, cs.drop digits.length with
    | [], ['-'] => return some [.close (← openedBy h)]
    | _ :: _, rest =>
      if rest.isEmpty || rest == ['-'] then
        match (← get).process.descriptors.lookup source with
        | none => refuse (shownIn h reads w source ++ ": " ++ Error.badDescriptor.text)
        | some index =>
          let d ← descriptorOf h
          noteHandle h d
          return some (Route.lead d index :: if rest.isEmpty || d = source then [] else [.close source])
      else other h reads text
    | _, _ => other h reads text
where
  bothTo (name : String) (appends : Bool) : Step (Option (List Route)) := do
    let some index ← openFile name (if appends then .append else .write) | return none
    return some [.lead 1 index, .lead 2 index]
  other (h : Handle) (reads : Bool) (text : String) : Step (Option (List Route)) := do
    if h = .number 1 ∧ !reads then bothTo text false
    else refuse (text ++ ": ambiguous redirect")
  /-- What is told of a descriptor that leads nowhere: its number, or the word that was expanded,
      unless the descriptor that is changed is given. -/
  shownIn (h : Handle) (reads : Bool) (w : Word) (source : Nat) : String :=
    let usual := if reads then 0 else 1
    match h, w.plain? with
    | .number n, none => if n = usual then w.spelling else toString n
    | _, _ => toString source

/-- Follow redirections one after the other; whether all succeed is returned. -/
def follow (e : Runner) : List Redirection → Step Bool
  | [] => return true
  | r :: rest => do
    match ← routesOf e r with
    | some routes =>
      routes.forM Route.take
      follow e rest
    | none => return false

/-- The descriptors by number that a redirection changes for a while. -/
def changed : Redirection → List Nat
  | .both .. => [1, 2]
  | .copy (.number n) reads source =>
    if n = 1 ∧ !reads ∧ !(source.plain?.any isNumber) then [1, 2] else [n]
  | .file (.number n) .. | .document (.number n) _ | .inline (.number n) _ => [n]
  | _ => []
where
  isNumber (text : String) : Bool := text.toList.all fun c => c.isDigit || c == '-'

/-- Bring back what descriptors led to that redirections changed; those that were chosen
    stay, and so does what the commands in between changed by themselves. -/
def undo (before : List (Nat × Nat)) (redirections : List Redirection) : Step Unit := do
  if redirections.isEmpty then return
  let mine := redirections.flatMap changed
  changeProcess fun p =>
    let isMine (d : Nat × Nat) : Bool := mine.contains d.1
    { p with descriptors := before.filter isMine ++ p.descriptors.filter (!isMine ·) }

end CompileTree.Shell.Extended.Redirecting
