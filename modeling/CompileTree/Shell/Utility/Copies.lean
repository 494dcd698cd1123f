import CompileTree.Shell.Utility.Places

/-! # Utilities that copy, move and link

Files and directories get other places: as copies, by being moved, or by links.
-/

namespace CompileTree.Shell.Utility

open Files Text

/-- How what stands in the way is kept under another name. -/
structure Backup where
  /-- Whether names are numbered, always or where they are already. -/
  numbered : Bool
  existing : Bool
  suffix : String

/-- How what stands in the way is kept, if it is. -/
def Backup.ofGiven (p : Process) (g : Given) : Option Backup :=
  if !(g.has 'b' || g.has 'S') then none
  else
    let control := match (g.valueOf? 'b').filter (· ≠ "") with
      | some c => c
      | none => (p.valueOf? "VERSION_CONTROL").getD "existing"
    let suffix := (g.valueOf? 'S').getD ((p.valueOf? "SIMPLE_BACKUP_SUFFIX").getD "~")
    if control ∈ ["none", "off"] then none
    else some ⟨control ∈ ["numbered", "t"], control ∈ ["existing", "nil"], suffix⟩

/-- The name under which what stands at a path is kept. -/
def Backup.name (b : Backup) (t : Tree) (p : Process) (path : String) : String :=
  let isThere (path : String) : Bool := (t.entry p.working false (Process.path path)).toOption.isSome
  let numberedName (n : Nat) : String := path ++ ".~" ++ toString n ++ "~"
  let count := t.entries.length + 1
  let free := ((List.range count).find? fun n => !isThere (numberedName (n + 1))).getD 0 + 1
  if b.numbered || (b.existing && 1 < free) then numberedName free else path ++ b.suffix

/-- The options that utilities with a target share. -/
def targetOptions : List (String × Char) :=
  [("--target-directory", 't'), ("--no-target-directory", 'T'), ("--verbose", 'v'),
    ("--force", 'f'), ("--interactive", 'i'), ("--backup?", 'b'), ("--suffix", 'S'),
    ("--strip-trailing-slashes", 'σ')]

/-- A path without separators at its end. -/
def bareText (path : String) : String :=
  let cs := (path.toList.reverse.dropWhile (· == '/')).reverse
  if cs.isEmpty then path else String.ofList cs

/-- The files of operands, each with the path that it goes to; else what is wrong, and whether
    that comes with a hint. -/
def destinations (p : Process) (g : Given) (what : String) (single : Bool) :
    Act (Except (String × Bool) (List (String × String))) := do
  let into (directory : String) (sources : List String) : List (String × String) :=
    sources.map fun s =>
      (s, inside directory (if g.has 'π' then s else lastName s))
  let reason (target : String) : Act String := do
    match ← found p true target with
    | .ok _ => return Error.notADirectory.text
    | .error e => return e.text
  match g.valueOf? 't', g.operands with
  | _, [] => return .error ("missing " ++ what ++ "file operand", true)
  | some directory, sources =>
    if ← isDirectory p directory then return .ok (into directory sources)
    else return .error ("target directory " ++ shown directory ++ ": " ++ (← reason directory), false)
  | none, [only] =>
    if single then return .ok (into "." [only])
    else return .error ("missing destination file operand after " ++ shown only, true)
  | none, operands =>
    let target := operands.getLastD ""
    let sources := operands.dropLast
    if g.has 'T' then
      match operands with
      | _ :: _ :: extra :: _ => return .error ("extra operand " ++ shown extra, true)
      | _ => return .ok (sources.map (·, target))
    let keepsLink ← if g.has 'n' && single then
        pure (match ← found p false target with
          | .ok (_, .link _) => true
          | _ => false)
      else pure false
    if !keepsLink && (← isDirectory p target) then return .ok (into target sources)
    match sources with
    | [source] =>
      if g.has 'π' then
        return .error ("with --parents, the destination must be a directory", true)
      return .ok [(source, target)]
    | _ => return .error ("target " ++ shown target ++ ": " ++ (← reason target), false)

/-- Do something with every source and the path that it goes to. -/
def withDestinations (p : Process) (name : String) (g : Given) (what : String) (single : Bool)
    (f : String → String → Act Bool) : Act Nat := do
  match ← destinations p g what single with
  | .error (text, true) => misuse p name text 1
  | .error (text, false) =>
    complain p name text
    return 1
  | .ok pairs =>
    let mut fine := true
    for (source, target) in pairs do
      let ok ← f (if g.has 'σ' then bareText source else source) target
      fine := fine && ok
    return statusOf fine

/-- Keep what stands at a path under another name, if that is wanted; that name is returned. -/
def backUp (p : Process) (b : Option Backup) (path : String) : Act (Option String) := do
  match b, ← found p false path with
  | some b, .ok (l, e) =>
    if isDirectoryEntry e then return none
    let t := (← get).files
    let kept := b.name t p path
    match t.locate p.working false (Process.path kept) with
    | .ok place =>
      System.move l place
      return some kept
    | .error _ => return none
  | _, _ => return none

/-- What is told of a name under which something was kept. -/
def backupText (kept : Option String) : String :=
  kept.elim "" fun k => " (backup: " ++ shown k ++ ")"

/-- How files are copied. -/
structure Copying where
  recursive : Bool
  /-- Whether links are followed where they are named, and everywhere. -/
  followsNamed : Bool
  followsAll : Bool
  modes : Bool
  times : Bool
  linksHard : Bool
  linksSoft : Bool
  attributesOnly : Bool
  removes : Bool
  force : Bool
  asks : Bool
  spares : Bool
  updates : Bool
  backup : Option Backup

/-- Let a copy have what is kept of a file besides what it holds. -/
def keepAttributes (c : Copying) (p : Process) (source target : Location) (isNew : Bool) :
    Act Unit := do
  let t := (← get).files
  let a := t.attributesAt source
  System.note target
  if c.modes then modify fun s => { s with files := s.files.setMode target (t.modeAt source) }
  else if isNew then
    let mode := t.modeAt source &&& (0o777 - p.mask)
    if mode ≠ (((← get).files.modeAt target)) then
      modify fun s => { s with files := s.files.setMode target mode }
  if c.times then
    modify fun s => { s with files := s.files.setAttributes target ({ · with time := a.time }) }

/-- Whether a file that is copied or moved must not replace what stands at a path. -/
def isSpared (p : Process) (name : String) (asks spares updates : Bool) (source : Location)
    (target : String) : Act Bool := do
  match ← found p true target with
  | .error _ => return false
  | .ok (l, e) =>
    if spares then return true
    let t := (← get).files
    if updates && !isDirectoryEntry e && (t.attributesAt source).time ≤ (t.attributesAt l).time then
      return true
    if asks then return !(← confirmed p (name ++ ": overwrite " ++ shown target ++ "? "))
    return false

/-- Copy a file that is no directory. -/
def copyFile (c : Copying) (p : Process) (name : String) (g : Given) (source target : String)
    (l : Location) (e : Entry) : Act Bool := do
  let refuse (text : String) : Act Bool := do
    complain p name text
    return false
  let s ← get
  let sameFile (place : Location) : Bool :=
    place = l || s.shared.any fun places => places.contains l && places.contains place
  let stands := (s.files.entry p.working false (Process.path target)).toOption
  if let some (place, .directory) := stands then
    let _ := place
    return ← refuse ("cannot overwrite directory " ++ shown target ++ " with non-directory")
  if ← isSpared p name c.asks c.spares c.updates l target then return true
  let linked := (s.files.locate p.working true (Process.path target)).toOption
  if linked.any sameFile && (s.files.get? l).isSome && !c.linksSoft && c.backup.isNone &&
      !(c.removes && stands.any (·.1 != l)) then
    if c.linksHard then return true
    return ← refuse (shown source ++ " and " ++ shown target ++ " are the same file")
  let kept ← backUp p c.backup target
  if c.removes && stands.isSome && kept.isNone then
    if let some (place, _) := stands then
      System.remove place
      tell p g ("removed " ++ shown target)
  let done : Act Bool := do
    tell p g (shown source ++ " -> " ++ shown target ++ backupText kept)
    return true
  let t := (← get).files
  let failed (what : String) (e : Error) : Act Bool := do
    if what = "create regular file" then
      tell p g (shown source ++ " -> " ++ shown target ++ backupText kept)
    refuse ("cannot " ++ what ++ " " ++ shown target ++ ": " ++ e.text)
  if c.linksSoft then
    match t.makeLink p.working (Process.path target) (gather source) with
    | .ok t =>
      modify fun s => { s with files := t }
      settleNew p target none
      return ← done
    | .error err =>
      return ← refuse ("cannot create symbolic link " ++ shown target ++ " to " ++ shown source ++ ": " ++ err.text)
  if c.linksHard then
    match t.locate p.working false (Process.path target) with
    | .ok place =>
      if (t.get? place).isSome && !c.force then
        return ← refuse ("cannot create hard link " ++ shown target ++ " to " ++ shown source ++ ": " ++
          Error.alreadyExists.text)
      System.addPlace l place
      return ← done
    | .error err =>
      return ← refuse ("cannot create hard link " ++ shown target ++ " to " ++ shown source ++ ": " ++ err.text)
  let isNode := match e with
    | .file .. => false
    | .link _ => true
    | .device (.queue _) => c.recursive
    | .device _ => false
    | .directory => true
  if isNode then
    match t.locate p.working false (Process.path target) with
    | .ok place =>
      System.remove place
      modify fun s => { s with files := s.files.put place e }
      System.note place
      done
    | .error err => failed "create symbolic link" err
  else
    let index ← p.openFile source .read
    let bytes ← match index with
      | .ok index => do pure (← System.read index none)
      | .error err => pure (.error err)
    match bytes, t.locate p.working true (Process.path target) with
    | .error err, _ => refuse ("cannot open " ++ shown source ++ " for reading: " ++ err.text)
    | _, .error err =>
      failed "create regular file" (if target.endsWith "/" then .notADirectory else err)
    | .ok bytes, .ok place =>
      if target.endsWith "/" && (t.get? place).isNone then
        return ← failed "create regular file" .notADirectory
      let bytes := if c.attributesOnly then .empty else bytes
      match t.get? place with
      | some (.file _ old) =>
        modify fun s => { s with files := s.files.put place (.file bytes old) }
        System.share place
        keepAttributes c p l place false
        done
      | some (.device d) =>
        match d with
        | .full => if bytes.isEmpty then done else refuse ("error writing " ++ shown target ++ ": " ++ Error.noSpace.text)
        | .nothing => done
        | _ =>
          match ← p.openFile target .write with
          | .ok index =>
            let _ ← System.write p.number index bytes
            done
          | .error err => failed "create regular file" err
      | some _ => refuse ("cannot overwrite directory " ++ shown target ++ " with non-directory")
      | none =>
        let hangs := (t.entry p.working false (Process.path target)).toOption.isSome
        if hangs && !c.force then
          return ← refuse ("not writing through dangling symlink " ++ shown target)
        if Tree.isSealed place then return ← failed "create regular file" .notFound
        let executable := match e with
          | .file _ executable => executable
          | _ => false
        modify fun s => { s with files := s.files.put place (.file bytes executable) }
        keepAttributes c p l place true
        done

/-- Copy what stands at a path to another path; `fuel` bounds how deep it is, and `named` is
    whether it is named by an operand. -/
def copyWithin (c : Copying) (p : Process) (name : String) (g : Given) (top : List Location) :
    Nat → Bool → String → String → Act Bool
  | 0, _, _, _ => return false
  | fuel + 1, named, source, target => do
    let follows := c.followsAll || (named && c.followsNamed)
    match ← found p follows source with
    | .error e =>
      blame p name "cannot stat" source e
      return false
    | .ok (l, .directory) =>
      if !c.recursive then
        complain p name ("-r not specified; omitting directory " ++ shown source)
        return false
      let s ← get
      match s.files.placeFor p.working (Process.path target) with
      | .error e =>
        blame p name "cannot create directory" target e
        return false
      | .ok place =>
        let place := match s.files.entry p.working true (Process.path target) with
          | .ok (k, .directory) => k
          | _ => place
        if named && l.isPrefixOf place then
          let what := if l = place then shown source ++ " and " ++ shown target ++ " are the same file"
            else "cannot copy a directory, " ++ shown source ++ ", into itself, " ++ shown target
          complain p name what
          return false
        if top.contains l then return true
        let inner := s.files.children l
        match s.files.get? place with
        | some .directory => pure ()
        | some _ =>
          complain p name ("cannot overwrite non-directory " ++ shown target ++ " with directory " ++
            shown source)
          return false
        | none =>
          modify fun s => { s with files := s.files.put place .directory }
          tell p g (shown source ++ " -> " ++ shown target)
          keepAttributes c p l place true
        let mut fine := true
        for (child, _) in inner do
          let child := spread child
          let ok ← copyWithin c p name g (place :: top) fuel false (inside source child) (inside target child)
          fine := fine && ok
        if c.times then keepAttributes c p l place false
        return fine
    | .ok (l, e) => copyFile c p name g source target l e

/-- Make the directories that lead to a source below a target. -/
def makeParents (p : Process) (g : Given) (source target : String) : Act Unit := do
  let base := (target.dropEnd source.length).copy
  for way in (waysTo source).dropLast do
    let path := base ++ way
    if !(← isDirectory p path) then
      let _ ← makeDirectory p path none
      tell p g (way ++ " -> " ++ path)

/-- Copy files, and directories with all below them if asked. -/
def copy : Program :=
  withOptions ⟨['r', 'R', 'a', 'b', 'p', 'f', 'v', 'd', 'H', 'L', 'P', 'i', 'n', 'T', 'u', 'l', 's', 'x', 'Z'],
      ['t', 'S', 'ν'],
      targetOptions ++ [("--recursive", 'r'), ("--archive", 'a'), ("--no-clobber", 'n'),
        ("--parents", 'π'), ("--update?", 'u'), ("--link", 'l'), ("--symbolic-link", 's'),
        ("--dereference", 'L'), ("--no-dereference", 'P'), ("--preserve?", 'κ'),
        ("--no-preserve", 'ν'), ("--remove-destination", 'ρ'), ("--attributes-only", 'α'),
        ("--reflink?", 'φ'), ("--sparse?", 'ς'), ("--one-file-system", 'x'), ("--copy-contents", 'ω')],
      false⟩ 1 fun p name g => do
    let archive := g.has 'a'
    let recursive := g.has 'r' || g.has 'R' || archive
    let follow := (g.options.filter fun o => o.1 ∈ ['H', 'L', 'P', 'd', 'a']).getLast?.map (·.1)
    let kept := ((g.options.filter (·.1 == 'κ')).map (·.2)).flatMap fun text =>
      (text.toList.splitOn ',').map String.ofList
    let keepsUsual := g.has 'p' || kept.contains "" || kept.contains "all"
    let valid := ["mode", "timestamps", "ownership", "links", "context", "xattr", "all", ""]
    if let some bad := kept.find? (· ∉ valid) then
      complain p name ("invalid argument " ++ shown bad ++ " for '--preserve'")
      p.complain "Valid arguments are:"
      for v in valid.dropLast do p.complain ("  - '" ++ v ++ "'")
      p.complain ("Try '" ++ name ++ " --help' for more information.")
      return 1
    let c : Copying := {
      recursive
      followsNamed := follow != some 'P' && follow != some 'd' && follow != some 'a' &&
        (!recursive || follow == some 'H')
      followsAll := follow == some 'L' || (!recursive && follow.isNone)
      modes := archive || keepsUsual || kept.contains "mode"
      times := archive || keepsUsual || kept.contains "timestamps"
      linksHard := g.has 'l', linksSoft := g.has 's', attributesOnly := g.has 'α'
      removes := g.has 'ρ', force := g.has 'f', asks := g.has 'i' && !g.has 'n'
      spares := (g.options.filter fun o => o.1 ∈ ['i', 'n', 'f']).getLast?.any (·.1 == 'n') ||
        g.valueOf? 'u' == some "none"
      updates := g.has 'u' && (g.valueOf? 'u').all (· ∈ ["", "older"])
      backup := Backup.ofGiven p g }
    withDestinations p name g "" false fun source target => do
      if g.has 'π' then makeParents p g source target
      copyWithin c p name g [] ((← get).files.entries.length + 2) true source target

/-- Move files and directories. -/
def move : Program :=
  withOptions ⟨['f', 'n', 'v', 'i', 'T', 'u', 'b', 'Z'], ['t', 'S'],
      targetOptions ++ [("--no-clobber", 'n'), ("--update?", 'u')], false⟩ 1 fun p name g => do
    let last := (g.options.filter fun o => o.1 ∈ ['i', 'n', 'f']).getLast?.map (·.1)
    let backup := Backup.ofGiven p g
    withDestinations p name g "" false fun source target => do
      match ← found p false source with
      | .error e =>
        blame p name "cannot stat" source e
        return false
      | .ok (l, e) =>
        let refuse (text : String) : Act Bool := do
          complain p name text
          return false
        let failed (e : Error) : Act Bool :=
          refuse ("cannot move " ++ shown source ++ " to " ++ shown target ++ ": " ++ e.text)
        match (← get).files.placeFor p.working (Process.path target) with
        | .error e => failed e
        | .ok place =>
          let isDirectory := isDirectoryEntry e
          if place = l then
            return ← refuse (shown source ++ " and " ++ shown target ++ " are the same file")
          if isDirectory && l.isPrefixOf place then
            return ← refuse ("cannot move " ++ shown source ++ " to a subdirectory of itself, " ++ shown target)
          if ← isSpared p name (last == some 'i') (last == some 'n' || g.valueOf? 'u' == some "none")
              (g.has 'u' && (g.valueOf? 'u').all (· ∈ ["", "older"])) l target then
            return true
          let moved : Act Bool := do
            let kept ← backUp p backup target
            System.move l place
            tell p g ("renamed " ++ shown source ++ " -> " ++ shown target ++ backupText kept)
            return true
          let t := (← get).files
          match isDirectory, t.get? place with
          | true, some .directory =>
            if (t.children place).isEmpty then moved else failed .directoryNotEmpty
          | true, some _ =>
            if backup.isSome then moved
            else
              refuse ("cannot overwrite non-directory " ++ shown target ++ " with directory " ++
                shown source)
          | false, some .directory =>
            refuse ("cannot overwrite directory " ++ shown target ++ " with non-directory")
          | true, none => moved
          | false, _ =>
            if target.endsWith "/" then failed .notADirectory else moved

/-- Make links. -/
def link : Program :=
  withOptions ⟨['s', 'f', 'n', 'v', 'T', 'r', 'b', 'i', 'L', 'P', 'd', 'F'], ['t', 'S'],
      targetOptions ++ [("--symbolic", 's'), ("--relative", 'r'), ("--no-dereference", 'n'),
        ("--logical", 'L'), ("--physical", 'P')], false⟩ 1 fun p name g => do
    let isSoft := g.has 's' || g.has 'r'
    let kind := if isSoft then "symbolic" else "hard"
    let arrow := if isSoft then " -> " else " => "
    let backup := Backup.ofGiven p g
    if g.has 'r' && !g.has 's' then
      complain p name "cannot do --relative without --symbolic"
      return 1
    withDestinations p name g "" true fun source target => do
      let text ← if !g.has 'r' then pure source
        else
          let t := (← get).files
          let directory := canonicalPlace t p .none (directoryOf target)
          match canonicalPlace t p .none source, directory with
          | .ok l, .ok base => pure (relativePath base l)
          | _, _ => pure source
      let failed (e : Error) : Act Bool := do
        let tellsSource := if isSoft then e = .nameTooLong || source = "" else e ≠ .alreadyExists
        complain p name ("failed to create " ++ kind ++ " link " ++ shown target ++
          (if tellsSource then arrow ++ shown source else "") ++ ": " ++ e.text)
        return false
      let entry ← if isSoft then pure (Except.ok ([], Entry.link (gather text)))
        else found p (g.has 'L') source
      match entry, (← get).files.locate p.working false (Process.path target) with
      | .error e, _ =>
        complain p name ("failed to access " ++ shown source ++ ": " ++ e.text)
        return false
      | .ok (_, .directory), _ =>
        complain p name (shownIfNeeded source ++ ": hard link not allowed for directory")
        return false
      | _, .error e => failed e
      | .ok (l, entry), .ok place =>
        let stands := (← get).files.get? place
        if isSoft && source = "" then return ← failed .notFound
        if stands.any isDirectoryEntry && (g.has 'f' || g.has 'i' || backup.isSome) then
          complain p name (shownIfNeeded target ++ ": cannot overwrite directory")
          return false
        if g.has 'f' && !isSoft && place = l then
          complain p name (shown source ++ " and " ++ shown target ++ " are the same file")
          return false
        if g.has 'i' && stands.isSome then
          if !(← confirmed p (name ++ ": replace " ++ shown target ++ "? ")) then return true
        let kept ← backUp p backup target
        if stands.isSome && kept.isNone && !g.has 'f' && !g.has 'i' then failed .alreadyExists
        else
          System.remove place
          if isSoft then
            modify fun s => { s with files := s.files.put place entry }
            System.note place
          else System.addPlace l place
          let before := kept.elim "" fun k => shown k ++ " ~ "
          tell p g (before ++ shown target ++ arrow ++ shown text)
          return true

/-- Copy files to where they are used, with the bits that they need there. -/
def install : Program :=
  withOptions ⟨['b', 'c', 'C', 'd', 'D', 'p', 's', 'T', 'v', 'Z'], ['m', 'g', 'o', 't', 'S'],
      targetOptions ++ [("--directory", 'd'), ("--mode", 'm'), ("--owner", 'o'), ("--group", 'g'),
        ("--preserve-timestamps", 'p'), ("--strip", 's'), ("--compare", 'C')], false⟩ 1
    fun p name g => do
      match givenMode g 'm' 0 0 false, givenMode g 'm' 0 0 true with
      | .error text, _ | _, .error text =>
        complain p name text
        return 1
      | .ok fileMode, .ok directoryMode =>
        let makeWays (path : String) (mode : Option Nat) : Act (Except Error Unit) := do
          let ways := waysTo path
          for way in ways do
            if !(← isDirectory p way) then
              match ← makeDirectory p way (if some way = ways.getLast? then mode else none) with
              | .ok () => tell p g (name ++ ": creating directory " ++ shown way)
              | .error e => return .error e
          return .ok ()
        if g.has 'd' then
          if g.operands.isEmpty then return ← misuse p name "missing file operand" 1
          let fine ← eachFile g.operands fun path => do
            match ← makeWays path (some (directoryMode.getD 0o755)) with
            | .ok () => return true
            | .error e =>
              complain p name ("cannot create directory " ++ shown path ++ ": " ++ e.text)
              return false
          return statusOf fine
        if g.has 'D' then
          match g.valueOf? 't', g.operands with
          | some directory, _ =>
            let _ ← makeWays directory none
          | none, [_, target] =>
            let directory := directoryOf target
            if directory ≠ "." then
              let _ ← makeWays directory none
          | none, _ => pure ()
        let c : Copying := ⟨false, true, true, false, g.has 'p', false, false, false, true, true, false,
          false, false, Backup.ofGiven p g⟩
        withDestinations p name g "" false fun source target => do
          if ← isDirectory p source then
            complain p name ("omitting directory " ++ shown source)
            return false
          let ok ← copyWithin c p name g [] 2 true source target
          if ok then
            if let .ok (l, .file ..) ← found p true target then
              modify fun s => { s with files := s.files.setMode l (fileMode.getD 0o755) }
          return ok

end CompileTree.Shell.Utility
