import CompileTree.Shell.Utility.Streams
import CompileTree.Shell.Utility.Walking

/-! # Utilities for names of files

Paths are taken apart, followed to the end, put in relation to each other and checked.
-/

namespace CompileTree.Shell.Utility

open Files Text

/-- Complain about a file. -/
def blame (p : Process) (name what file : String) (e : Error) : Act Unit :=
  complain p name (what ++ " " ++ shown file ++ ": " ++ e.text)

/-- Where a path leads, if something stands there. -/
def found (p : Process) (followLast : Bool) (path : String) :
    Act (Except Error (Location × Entry)) := do
  return p.placeIn (← get) followLast path

/-- Whether a path leads to a directory. -/
def isDirectory (p : Process) (path : String) : Act Bool := do
  return (← get).files.isDirectory p.working (Process.path path)

/-- Which of the names of a path have to be there for it to be followed to its end. -/
inductive Presence where
  | every
  | allButLast
  | none
  deriving DecidableEq

/-- The place that names lead to, whether something stands on the way or not; `fuel` bounds
    how many names there are and how many links stand for others. -/
def followLoosely (t : Tree) : Nat → Location → List String → Location
  | 0, l, _ | _, l, [] => l
  | fuel + 1, l, name :: rest =>
    if name = "." then followLoosely t fuel l rest
    else if name = ".." then followLoosely t fuel l.dropLast rest
    else
      match t.get? (l ++ [name]) with
      | some (.link target) =>
        followLoosely t fuel (if isRooted target then [] else l) (names target ++ rest)
      | _ => followLoosely t fuel (l ++ [name]) rest

/-- The place that a path leads to without links. -/
def canonicalPlace (t : Tree) (p : Process) (presence : Presence) (path : String) :
    Except Error Location :=
  match presence with
  | .every => (t.entry p.working true (Process.path path)).map (·.1)
  | .allButLast =>
    let bare := (path.toList.reverse.dropWhile (· == '/')).reverse
    let last := String.ofList (if bare.isEmpty then path.toList else bare)
    match t.entry p.working true (Process.path path) with
    | .ok (l, _) => .ok l
    | .error .notFound =>
      t.locate p.working true (Process.path last)
    | .error e => .error e
  | .none =>
    if path = "" then .error .notFound
    else
      let ns := names (gather path)
      .ok (followLoosely t (ns.length + 1000) (if isRooted path then [] else p.working) ns)

/-- The place that names lead to if no links are followed. -/
def plainPlace (working : Location) (path : String) : Location :=
  (names (gather path)).foldl (fun l name =>
    if name = "." then l else if name = ".." then l.dropLast else l ++ [name])
    (if isRooted path then [] else working)

/-- The path of a place. -/
def placeText (l : Location) : String := spread (Tree.pathOf l).text

/-- The path from one place to another. -/
def relativePath (base target : Location) : String :=
  let rec go : List String → List String → List String
    | b :: bs, t :: ts => if b = t then go bs ts else ((b :: bs).map fun _ => "..") ++ t :: ts
    | bs, ts => (bs.map fun _ => "..") ++ ts
  let way := go base target
  if way.isEmpty then "." else spread ("/".intercalate way)

/-- Write where links lead. -/
def readLinks : Program :=
  withOptions ⟨['f', 'e', 'm', 'n', 'q', 's', 'v', 'z'], [],
      [("--canonicalize", 'f'), ("--canonicalize-existing", 'e'), ("--canonicalize-missing", 'm'),
        ("--no-newline", 'n'), ("--quiet", 'q'), ("--silent", 's'), ("--verbose", 'v'),
        ("--zero", 'z')], false⟩ 1 fun p name g => do
    if g.operands.isEmpty then return ← misuse p name "missing operand" 1
    if g.has 'n' && 1 < g.operands.length then
      complain p name "ignoring --no-newline with multiple arguments"
    let ending := if g.has 'n' && g.operands.length = 1 then ""
      else String.singleton (lineEndFor (g.has 'z'))
    let presence : Option Presence :=
      match (g.options.filter fun o => o.1 ∈ ['f', 'e', 'm']).getLast? with
      | some ('f', _) => some .allButLast
      | some ('e', _) => some .every
      | some _ => some .none
      | none => none
    let fine ← eachFile g.operands fun path => do
      let failed (e : Error) : Act Bool := do
        if g.has 'v' then complain p name (shownIfNeeded path ++ ": " ++ e.text)
        return false
      match presence with
      | some presence =>
        match canonicalPlace (← get).files p presence path with
        | .ok l =>
          p.say (placeText l ++ ending)
          return true
        | .error e => failed e
      | none =>
        match ← found p false path with
        | .ok (_, .link target) =>
          p.say (spread target ++ ending)
          return true
        | .ok _ => failed .invalidArgument
        | .error e => failed e
    return statusOf fine

/-- Write paths without links. -/
def realPaths : Program :=
  withOptions ⟨['e', 'm', 'L', 'P', 'q', 's', 'z'], ['ρ', 'β'],
      [("--canonicalize-existing", 'e'), ("--canonicalize-missing", 'm'), ("--logical", 'L'),
        ("--physical", 'P'), ("--quiet", 'q'), ("--strip", 's'), ("--no-symlinks", 's'),
        ("--zero", 'z'), ("--relative-to", 'ρ'), ("--relative-base", 'β')], false⟩ 1
    fun p name g => do
      if g.operands.isEmpty then return ← misuse p name "missing operand" 1
      let presence : Presence :=
        if g.has 'm' then .none else if g.has 'e' then .every else .allButLast
      let t := (← get).files
      let place (path : String) : Except Error Location := do
        if g.has 's' then
          if presence ≠ .none then
            let _ ← canonicalPlace t p presence path
          return plainPlace p.working path
        canonicalPlace t p presence path
      let mut bases : List (Option Location) := []
      for letter in ['ρ', 'β'] do
        match g.valueOf? letter with
        | none => bases := bases ++ [none]
        | some path =>
          match place path with
          | .ok l => bases := bases ++ [some l]
          | .error e =>
            complain p name (shownIfNeeded path ++ ": " ++ e.text)
            return 1
      let (relativeTo, within) := ((bases[0]?).join, (bases[1]?).join)
      let fine ← eachFile g.operands fun path => do
        match place path with
        | .ok l =>
          let isWithin := within.all fun b => b.isPrefixOf l
          let text := match relativeTo.orElse fun _ => within with
            | some base => if isWithin then relativePath base l else placeText l
            | none => placeText l
          p.say (text ++ String.singleton (lineEndFor (g.has 'z')))
          return true
        | .error e =>
          if !g.has 'q' then complain p name (shownIfNeeded path ++ ": " ++ e.text)
          return false
      return statusOf fine

/-- Write the last names of paths. -/
def baseNames : Program :=
  withOptions ⟨['a', 'z'], ['s'],
      [("--suffix", 's'), ("--multiple", 'a'), ("--zero", 'z')], true⟩ 1 fun p name g => do
    let ending := String.singleton (lineEndFor (g.has 'z'))
    let stripped (suffix path : String) : String :=
      let last := lastName path
      if suffix ≠ "" ∧ last.endsWith suffix ∧ last ≠ suffix then (last.dropEnd suffix.length).copy
      else last
    match g.operands with
    | [] => misuse p name "missing operand" 1
    | first :: rest =>
      if g.has 'a' || g.has 's' then
        for path in first :: rest do p.say (stripped ((g.valueOf? 's').getD "") path ++ ending)
        return 0
      else
        match rest with
        | _ :: extra :: _ => misuse p name ("extra operand " ++ marked extra) 1
        | rest =>
          p.say (stripped (rest.headD "") first ++ ending)
          return 0

/-- A path without its last name. -/
def directoryOf (path : String) : String :=
  let trimmed := (path.toList.reverse.dropWhile (· == '/'))
  let before := trimmed.dropWhile (· ≠ '/')
  if trimmed.isEmpty then (if path = "" then "." else "/")
  else if before.isEmpty then "."
  else
    let cs := (before.dropWhile (· == '/')).reverse
    if cs.isEmpty then "/" else String.ofList cs

/-- Write paths without their last names. -/
def directoryNames : Program :=
  withOptions ⟨['z'], [], [("--zero", 'z')], true⟩ 1 fun p name g => do
    if g.operands.isEmpty then return ← misuse p name "missing operand" 1
    for path in g.operands do
      p.say (directoryOf path ++ String.singleton (lineEndFor (g.has 'z')))
    return 0

/-- Write the path of the working directory. -/
def workingPath : Program :=
  withOptions ⟨['L', 'P'], [], [("--logical", 'L'), ("--physical", 'P')], false⟩ 1 fun p name g => do
    let physical := placeText p.working
    let t := (← get).files
    if !g.operands.isEmpty then complain p name "ignoring non-option arguments"
    let entered := (p.valueOf? "PWD").filter fun path =>
      g.has 'L' && path.startsWith "/" &&
        ((t.entry p.working true (Process.path path)).toOption.map (·.1)) == some p.working
    p.say (entered.getD physical ++ "\n")
    return 0

/-- The characters that may stand in names everywhere. -/
def isPortable (c : Char) : Bool := c.isAlphanum || c ∈ ['.', '_', '-', '/']

/-- What keeps a name from being used everywhere: its characters, its length and the length
    of its parts, or that it is empty or has a part with a hyphen in front. -/
def nameFault? (portable strict : Bool) (path : String) : Option String :=
  let parts := names path
  let limit (most size : Nat) (what : String) : Option String :=
    if size ≤ most then none
    else some ("limit " ++ toString most ++ " exceeded by length " ++ toString size ++ " of file name " ++ what)
  if strict && parts.any (·.startsWith "-") then
    some ("leading '-' in a component of file name " ++ shown path)
  else if (portable || strict) && path = "" then some "empty file name"
  else if portable then
    match path.toList.find? (!isPortable ·) with
    | some c =>
      some ("nonportable character " ++ marked (String.singleton c) ++ " in file name " ++ shown path)
    | none =>
      (limit 255 path.length (shown path)).orElse fun _ =>
        parts.findSome? fun part => limit 14 part.length ("component " ++ shown part)
  else
    (limit 4095 path.length (shown path)).orElse fun _ =>
      parts.findSome? fun part => limit 255 part.length ("component " ++ shown part)

/-- Check names of files. -/
def checkNames : Program :=
  withOptions ⟨['p', 'P'], [], [("--portability", 'a')], true⟩ 1 fun p name g => do
    if g.operands.isEmpty then return ← misuse p name "missing operand" 1
    let fine ← eachFile g.operands fun path => do
      let portable := g.has 'p' || g.has 'a'
      match nameFault? portable (g.has 'P' || g.has 'a') path with
      | some text =>
        complain p name text
        return false
      | none =>
        if portable then return true
        match ← found p true path with
        | .error .notADirectory =>
          complain p name (shownIfNeeded path ++ ": " ++ Error.notADirectory.text)
          return false
        | .error .notFound =>
          if path = "" then complain p name (shown path ++ ": " ++ Error.notFound.text)
          return path ≠ ""
        | _ => return true
    return statusOf fine

end CompileTree.Shell.Utility
