import CompileTree.Shell.Extended.Builtin.Options

/-! # Commands that declare variables

Variables get properties and values, are handed on, made fixed, and taken away. What
these commands are given may be assignments, even of whole lists.
-/

namespace CompileTree.Shell.Extended.Builtin

open Step
open Values (resolve referenceLimit)

/-- An argument of a command that declares variables. -/
inductive Operand where
  | text (t : String)
  | assigned (name : String) (key : Option String) (appends : Bool) (value : Assigning.Value)

/-- What is to be declared, with the value that it gets. -/
structure Target where
  name : String
  key : Option String
  appends : Bool
  value : Option Assigning.Value

namespace Target

/-- What a text declares, if it spells a name or an assignment. -/
def ofText? (text : String) : Option Target :=
  let cs := text.toList
  let name := cs.takeWhile Script.isNameChar
  let behind (key : Option String) (rest : List Char) : Option Target :=
    let target := Target.mk (String.ofList name) key
    let value (cs : List Char) := some (Assigning.Value.text (String.ofList cs))
    match rest with
    | [] => some (target false none)
    | '=' :: cs => some (target false (value cs))
    | '+' :: '=' :: cs => some (target true (value cs))
    | _ => none
  if !Script.isName name then none
  else
    match cs.drop name.length with
    | '[' :: rest =>
      (balanced? ']' rest).bind fun (key, after) => behind (some (String.ofList key)) after
    | rest => behind none rest

end Target

/-- The text of an operand, as far as it can be shown. -/
def Operand.spelling : Operand → String
  | .text t => t
  | .assigned name key appends value =>
    let name := name ++ (key.elim "" fun k => "[" ++ k ++ "]") ++ (if appends then "+=" else "=")
    match value with
    | .text t => name ++ t
    | .list _ => name

/-- What an operand declares. -/
def Operand.target? : Operand → Option Target
  | .text t => Target.ofText? t
  | .assigned name key appends value => some ⟨name, key, appends, some value⟩

/-- The letters of options that declare properties, and of those that take them away. -/
structure Properties where
  on : List Char
  off : List Char

/-- The letters that may be declared. -/
def propertyLetters : List Char :=
  ['a', 'A', 'c', 'f', 'F', 'g', 'i', 'I', 'l', 'n', 'p', 'r', 't', 'u', 'x']

/-- The options at the start of operands, and the operands behind them. -/
def properties : List Operand → Except String (Properties × List Operand)
  | .text t :: rest =>
    match t.toList with
    | ['-', '-'] => .ok (⟨[], []⟩, rest)
    | sign :: c :: cs =>
      if sign = '-' ∨ sign = '+' then
        match (c :: cs).find? (· ∉ propertyLetters) with
        | some c => .error (String.ofList [sign, c] ++ ": invalid option")
        | none => do
          let (p, rest) ← properties rest
          return (if sign = '-' then ⟨c :: cs ++ p.on, p.off⟩ else ⟨p.on, c :: cs ++ p.off⟩, rest)
      else .ok (⟨[], []⟩, .text t :: rest)
    | _ => .ok (⟨[], []⟩, .text t :: rest)
  | rest => .ok (⟨[], []⟩, rest)

namespace Properties

/-- Whether a variable has the properties that are asked for. -/
def fits (p : Properties) (v : Variable) : Bool :=
  let letters := v.letters.toList
  p.on.all fun c => c ∉ ['a', 'A', 'c', 'i', 'l', 'n', 'r', 'u', 'x'] || letters.contains c

/-- A variable with the properties, apart from that of being fixed. -/
def apply (p : Properties) (v : Variable) : Variable :=
  let set_ (c : Char) (old : Bool) : Bool :=
    if p.off.contains c then false else old || p.on.contains c
  let casing := match p.on.find? (· ∈ ['c', 'l', 'u']) with
    | some 'c' => some Casing.toggled
    | some 'l' => some .lower
    | some _ => some .upper
    | none => if p.off.any (· ∈ ['c', 'l', 'u']) then none else v.casing
  { v with
    exported := set_ 'x' v.exported, integer := set_ 'i' v.integer
    reference := set_ 'n' v.reference, casing }

end Properties

/-- The content of a variable that is declared to be an array. -/
def arrayContent (name : String) (p : Properties) (c : Content) : Except String Content :=
  if p.on.contains 'A' then
    match c with
    | .table _ => .ok c
    | .list _ => .error (name ++ ": cannot convert indexed to associative array")
    | .text t => .ok (.table [("0", t)])
    | .nothing => .ok (.table [])
  else if p.on.contains 'a' then
    match c with
    | .table _ => .error (name ++ ": cannot convert associative to indexed array")
    | .list _ => .ok c
    | .text t => .ok (.list [(0, t)])
    | .nothing => .ok (.list [])
  else if (p.off.contains 'a' || p.off.contains 'A') && c.isArray then
    .error (name ++ ": cannot destroy array variables in this way")
  else .ok c

/-- The elements of a list that a text spells with the parentheses around it. -/
def spelledList? (e : Runner) (text : String) : Step (Option (List Assigning.Entry)) := do
  let cs := text.toList
  if cs.head? == some '(' && cs.getLast? == some ')' then
    match Reader.listText.run (Source.ofText 0 false (cs.drop 1)) with
    | .ok (items, _) => return some (← items.mapM (Assigning.entryOf e))
    | .error _ => return none
  else return none

/-- Give a variable that was declared its value. -/
def giveValue (e : Runner) (t : Target) : Step Unit := do
  match t.value with
  | none => return
  | some value =>
    let isArray := (← Values.content t.name).isArray
    match value, t.key with
    | .text text, none =>
      let entries? ← if isArray then spelledList? e text else pure none
      match entries? with
      | some entries => Assigning.assignList t.name entries t.appends
      | none => Assigning.assignValue t.name none t.appends value
    | value, key => Assigning.assignValue t.name key t.appends value

/-- Let a name stand for the variable that another name is. -/
def declareReference (own : Bool) (v : Variable) (value : Option Assigning.Value) : Step Nat := do
  let put_ (v : Variable) : Step Nat := do
    modify fun s => if own then s.putLocal v else s.put v
    return 0
  match value with
  | some (.text t) =>
    if t = v.name then refuse (t ++ ": nameref variable self references not allowed")
    else if (Target.ofText? t).all (·.value.isSome) then
      refuse ("\x60" ++ t ++ "': invalid variable name for name reference")
    else put_ { v with content := .text t }
  | _ => put_ v

/-- Declare a variable, as one of the function that is being run if asked. -/
def declareOne (e : Runner) (own : Bool) (p : Properties) (t : Target) : Step Nat := do
  let s ← get
  let isReference := p.on.contains 'n' || p.off.contains 'n'
  let name := if own || isReference then t.name else resolve s referenceLimit t.name
  let mine := (s.scopes.find? (·.kind == .function)).bind (·.find? name)
  let fresh := Variable.plain name .nothing
  let inherited := match s.find? name with
    | some v => if p.on.contains 'I' then v else { fresh with exported := v.exported }
    | none => fresh
  let v := if own then mine.getD inherited else (s.find? name).getD fresh
  let hidden := (s.scopes.find? (·.kind == .shell)).bind (·.find? name)
  let hidesFixed := own && mine.isNone && (hidden.any fun v =>
    v.fixed && (s.find? name).any (·.fixed))
  if hidesFixed || (v.fixed && (t.value.isSome || p.off.contains 'r')) then
    return ← refuse (name ++ ": readonly variable")
  let kinds := if t.key.isSome && !v.content.isArray then { p with on := 'a' :: p.on } else p
  match arrayContent name kinds v.content with
  | .error text => refuse text
  | .ok content =>
    let isNew := v.content == .nothing && content.isArray
    let v := p.apply { v with content, bare := v.bare || isNew }
    if p.on.contains 'n' then return ← declareReference own v t.value
    modify fun s => if own then s.putLocal v else s.put v
    giveValue e { t with name }
    if p.on.contains 'r' then
      modify fun s => match s.find? name with
        | some v => if own then s.putLocal { v with fixed := true } else s.put { v with fixed := true }
        | none => s
    return 0

/-- Do something where only the variables of the shell are seen. -/
def globally {α : Type} (r : Step α) : Step α := do
  let inner := (← get).scopes.filter (·.kind != .shell)
  modify fun s => { s with scopes := s.scopes.filter (·.kind == .shell) }
  anyway r (modify fun s => { s with scopes := inner ++ s.scopes })

/-- Keep the options of the shell with the variables of the function that is being run. -/
def keepOptions : Step Nat := do
  modify fun s => s.putLocal (Variable.plain "-" (.text (" ".intercalate s.options)))
  return 0

/-- Declare what operands name. -/
def declareEach (e : Runner) (own : Bool) (p : Properties) : Nat → List Operand → Step Nat
  | status, [] => return status
  | status, o :: rest => do
    let isOptions := match o with
      | .text "-" => own
      | _ => false
    let n ←
      if isOptions then keepOptions
      else match o.target? with
        | some t => declareOne e own p t
        | none => refuse ("\x60" ++ o.spelling ++ "': not a valid identifier")
    declareEach e own p (max status n) rest

/-- Write functions, or only their names. -/
def showFunctions (p : Properties) (names : List String) : Step Nat := do
  let onlyNames := p.on.contains 'F'
  let show_ (f : Function) : Step Unit :=
    if !onlyNames then say (Printing.function f.name f.body ++ "\n")
    else say ((if names.isEmpty then "declare -f" ++ (if f.exported then "x" else "") ++ " " else "") ++
      f.name ++ "\n")
  if names.isEmpty then
    for f in ← sortedFunctions do
      if f.exported || !p.on.contains 'x' then show_ f
    return 0
  let mut status := 0
  for name in names do
    match (← get).function? name with
    | some f => show_ f
    | none => status := 1
  return status

/-- Write variables as commands that declare them. -/
def showVariables (vs : List Variable) : Step Unit :=
  for v in vs do say (Expansion.declaration v ++ "\n")

/-- The variables of the function that is being run. -/
def ownVariables : Step (List Variable) := do
  let scope? := (← get).scopes.find? (·.kind == .function)
  let vs := (scope?.map (·.held)).getD []
  return (vs.filter (·.name != "-")).mergeSort fun a b => !(b.name < a.name)

/-- Write the variables that operands name, or those with some properties. -/
def showDeclared (own : Bool) (p : Properties) (names : List String) : Step Nat := do
  if names.isEmpty then
    let vs ← if own then ownVariables else sortedVariables
    showVariables (vs.filter p.fits)
    return 0
  let mut status := 0
  for name in names do
    let s ← get
    let found? ← match s.find? name with
      | some v => do
        match ← Values.lookup (if v.reference then "" else name) with
        | some w => pure (some { v with content := w.content })
        | none => pure (some v)
      | none => Values.lookup name
    match found? with
    | some v => showVariables [v]
    | none => status ← refuse (name ++ ": not found")
  return status

/-- Hand functions on, or no longer. -/
def handOn (on : Bool) (names : List String) : Step Nat := do
  let mut status := 0
  for name in names do
    if ((← get).function? name).isNone then status ← refuse (name ++ ": not a function")
    else
      let changed (f : Function) : Function := if f.name = name then { f with exported := on } else f
      modify fun s => { s with functions := s.functions.map changed }
  return status

/-- Declare variables, or write how they were declared. Within a function they belong to it. -/
def declare (e : Runner) (operands : List Operand) : Step Nat := do
  let s ← get
  let isLocal := s.command == some "local"
  if isLocal && !s.isInFunction then return ← refuse "can only be used in a function"
  match properties operands with
  | .error text =>
    complain text
    usage
  | .ok (p, operands) =>
    let own := s.isInFunction && (isLocal || !p.on.contains 'g')
    let names := operands.map Operand.spelling
    if p.on.contains 'f' || p.on.contains 'F' then
      if p.on.contains 'x' && !names.isEmpty then handOn true names else showFunctions p names
    else if p.on.contains 'p' then showDeclared isLocal p names
    else if operands.isEmpty then
      if isLocal || p.on.any (· ∉ ['g', 't']) then showDeclared isLocal p []
      else listAll
    else if s.isInFunction && !own then globally (declareEach e false p 0 operands)
    else declareEach e own p 0 operands

/-- Give variables a property, and values if any are given. -/
def markEach (e : Runner) (p : Properties) : Nat → List Operand → Step Nat
  | status, [] => return status
  | status, o :: rest => do
    let one (t : Target) : Step Nat := do
      let s ← get
      let name := resolve s referenceLimit t.name
      let v := (s.find? name).getD (Variable.plain name .nothing)
      if v.fixed && t.value.isSome then
        complainPlainly (name ++ ": readonly variable")
        return 1
      declareOne e false p t
    let n ← match o.target? with
      | some t =>
        if t.key.isSome then refuse ("\x60" ++ o.spelling ++ "': not a valid identifier") else one t
      | none => refuse ("\x60" ++ o.spelling ++ "': not a valid identifier")
    markEach e p (max status n) rest

/-- Hand variables on, or keep them from being changed. -/
def markVariables (letter : Char) (e : Runner) (operands : List Operand) : Step Nat := do
  match properties operands with
  | .error text =>
    complain text
    usage
  | .ok (p, operands) =>
    let names := operands.map Operand.spelling
    let on := !(letter == 'x' && p.on.contains 'n')
    if p.on.contains 'f' then
      if names.isEmpty then showFunctions { p with on := [letter] } []
      else if letter = 'x' then handOn on names
      else return 0
    else if operands.isEmpty then showDeclared false ⟨letter :: p.on.filter (· ∈ ['a', 'A']), []⟩ []
    else
      let kinds := p.on.filter (· ∈ ['a', 'A'])
      markEach e (if on then ⟨letter :: kinds, []⟩ else ⟨kinds, [letter]⟩) 0 operands

/-- Take an element of an array away. -/
def unsetElement (name subscript : String) : Step Nat := do
  if ((← get).find? name).any (·.fixed) then
    return ← refuse (name ++ ": cannot unset: readonly variable")
  match ← Values.content name with
  | .nothing => return 0
  | .text _ =>
    if subscript = "0" then
      modify fun s => s.drop (resolve s referenceLimit name)
      return 0
    else refuse (name ++ ": not an array variable")
  | c =>
    if subscript = "@" ∨ subscript = "*" then
      Values.replace name (match c with
        | .table _ => .table []
        | _ => .list [])
      return 0
    match ← Values.keyOf name subscript, c with
    | .text k, .table elements => Values.replace name (.table (elements.filter (·.1 != k)))
    | .index n, c =>
      match Values.placeIn c n with
      | some i => Values.replace name (.list (c.asList.filter (·.1 != i)))
      | none => complain ("[" ++ subscript ++ "]: bad array subscript")
    | _, _ => return 1
    return 0

/-- Take a variable away, if it may be. -/
def unsetVariable (name : String) : Step Nat := do
  match (← get).find? name with
  | some v =>
    if v.fixed then refuse (name ++ ": cannot unset: readonly variable")
    else
      modify fun s => s.drop name
      return 0
  | none => return 0

/-- Take variables or functions away. -/
def unset : Action := fun _ arguments =>
  withOptions ['f', 'n', 'v'] [] arguments fun os names => do
    if has os 'f' && has os 'v' then
      return ← refuse "cannot simultaneously unset a function and a variable"
    let mut status := 0
    for name in names do
      let dropFunction : Step Unit :=
        modify fun s => { s with functions := s.functions.filter (·.name != name) }
      if has os 'f' then dropFunction
      else
        match Target.ofText? name with
        | some ⟨base, some subscript, _, none⟩ =>
          status := max status (← unsetElement base subscript)
        | some ⟨base, none, _, none⟩ =>
          let s ← get
          let target := if has os 'n' then base else resolve s referenceLimit base
          if (s.find? target).isNone && !has os 'v' && !has os 'n' then dropFunction
          else status := max status (← unsetVariable target)
        | _ => if !has os 'v' && !has os 'n' then dropFunction
    return status

end CompileTree.Shell.Extended.Builtin
