import CompileTree.Shell.Utility.Streams
import CompileTree.Text.Digest
import CompileTree.Text.Hex

/-! # Utilities for digests

Digests of files are written, and compared with those that lists tell of.
-/

namespace CompileTree.Shell.Utility

open Files Text

/-- A digest with the name that lists have for it. -/
structure DigestKind where
  title : String
  /-- How many digits it has. -/
  digits : Nat
  digest : ByteArray → List UInt8

/-- Bytes in hexadecimal digits. -/
def hexText (bytes : List UInt8) : String :=
  String.ofList (bytes.flatMap fun b =>
    [Nat.digitChar (b.toNat / 16), Nat.digitChar (b.toNat % 16)])

/-- A name with a backslash before what would end its line, and whether there is any. -/
def guardedName (file : String) : String × Bool :=
  let cs := file.toList
  if cs.any fun c => c = '\n' || c = '\\' || c = '\r' then
    (String.ofList (cs.flatMap fun c =>
      if c = '\n' then ['\\', 'n'] else if c = '\r' then ['\\', 'r']
      else if c = '\\' then ['\\', '\\'] else [c]), true)
  else (file, false)

/-- The digest and the file that a line of a list tells of. -/
def DigestKind.listed? (k : DigestKind) (line : String) : Option (String × String) :=
  let line := if line.startsWith "\\" then (line.drop 1).copy else line
  let cs := line.toList.dropWhile fun c => c = ' ' || c = '\t'
  let digits := cs.takeWhile fun c => (hexValue? c).isSome
  if digits.length = k.digits then
    match cs.drop digits.length with
    | ' ' :: ' ' :: file | ' ' :: '*' :: file | ' ' :: file =>
      if file.isEmpty then none
      else some ((String.ofList digits).toLower, String.ofList file)
    | _ => none
  else
    let start := k.title ++ " ("
    if line.startsWith start then
      let rest := (line.drop start.length).copy
      match (rest.toList.splitOn ')').reverse with
      | tail :: names@(_ :: _) =>
        let sum := String.ofList (tail.dropWhile fun c => c = ' ' || c = '=')
        if sum.length = k.digits then
          some (sum.toLower, String.ofList ([')'].intercalate names.reverse))
        else none
      | _ => none
    else none

/-- What came of comparing files with a list. -/
structure Checked where
  failed : Nat
  unread : Nat
  odd : Nat
  matched : Nat

/-- Compare files with what a list tells of them. -/
def DigestKind.check (k : DigestKind) (p : Process) (name : String) (g : Given) (list : String) :
    Act Bool := do
  let title := if list = "-" then "'standard input'" else shownIfNeeded list
  match ← content p list with
  | .error e =>
    complain p name (title ++ ": " ++ e.text)
    return false
  | .ok text =>
    let mut c : Checked := ⟨0, 0, 0, 0⟩
    let mut any := false
    for (line, n) in (linesOf text).zipIdx 1 do
      if !line.startsWith "#" then
        match k.listed? line with
        | none =>
          c := { c with odd := c.odd + 1 }
          if g.has 'w' then
            complain p name (title ++ ": " ++ toString n ++ ": improperly formatted " ++ k.title ++
              " checksum line")
        | some (sum, file) =>
          any := true
          match ← content p file with
          | .error e =>
            if !(g.has 'ι' && e = .notFound) then
              complain p name (shownIfNeeded file ++ ": " ++ e.text)
              if !g.has 'σ' then p.say (file ++ ": FAILED open or read\n")
              c := { c with unread := c.unread + 1 }
          | .ok bytes =>
            if hexText (k.digest (toBytes bytes)) = sum then
              c := { c with matched := c.matched + 1 }
              if !g.has 'q' && !g.has 'σ' then p.say (file ++ ": OK\n")
            else
              c := { c with failed := c.failed + 1 }
              if !g.has 'σ' then p.say (file ++ ": FAILED\n")
    if !any then
      complain p name (title ++ ": no properly formatted checksum lines found")
      return false
    let count (n : Nat) (one many : String) : String := toString n ++ " " ++ if n = 1 then one else many
    if !g.has 'σ' then
      if c.odd ≠ 0 then
        complain p name ("WARNING: " ++ count c.odd "line is improperly formatted" "lines are improperly formatted")
      if c.unread ≠ 0 then
        complain p name ("WARNING: " ++ count c.unread "listed file could not be read" "listed files could not be read")
      if c.failed ≠ 0 then
        complain p name ("WARNING: " ++ count c.failed "computed checksum did NOT match" "computed checksums did NOT match")
      if g.has 'ι' && c.matched = 0 then complain p name (title ++ ": no file was verified")
    return c.failed = 0 && c.unread = 0 && !(g.has 'κ' && c.odd ≠ 0) && !(g.has 'ι' && c.matched = 0)

/-- Write the digests of files, or compare them with lists. -/
def DigestKind.program (k : DigestKind) : Program :=
  withOptions ⟨['b', 't', 'c', 'w', 'z', 'q'], [],
      [("--binary", 'b'), ("--text", 't'), ("--check", 'c'), ("--tag", 'τ'), ("--zero", 'z'),
        ("--quiet", 'q'), ("--status", 'σ'), ("--strict", 'κ'), ("--warn", 'w'),
        ("--ignore-missing", 'ι')], false⟩ 1 fun p name g => do
    let fine ← eachFile (orInput g.operands) fun file => do
      if g.has 'c' then return ← k.check p name g file
      match ← content p file with
      | .error e =>
        complain p name (shownIfNeeded file ++ ": " ++ e.text)
        return false
      | .ok text =>
        let sum := hexText (k.digest (toBytes text))
        let (file, guarded) := if g.has 'z' then (file, false) else guardedName file
        let start := if guarded then "\\" else ""
        let line := if g.has 'τ' then k.title ++ " (" ++ file ++ ") = " ++ sum
          else sum ++ " " ++ (if g.has 'b' then "*" else " ") ++ file
        p.say (start ++ line ++ String.singleton (lineEndFor (g.has 'z')))
        return true
    return statusOf fine

/-- The digests by the utilities that write them. -/
def digestKinds : List (String × DigestKind) := [
  ("md5sum", ⟨"MD5", 32, Digest.md5⟩), ("sha1sum", ⟨"SHA1", 40, Digest.sha1⟩),
  ("sha224sum", ⟨"SHA224", 56, Digest.sha224⟩), ("sha256sum", ⟨"SHA256", 64, Digest.sha256⟩),
  ("sha384sum", ⟨"SHA384", 96, Digest.sha384⟩), ("sha512sum", ⟨"SHA512", 128, Digest.sha512⟩)]

/-- Write checks of files and their sizes. -/
def checkSums : Program := fun p arguments =>
  withOptions ⟨['c', 'z'], ['a', 'l'],
      [("--algorithm", 'a'), ("--untagged", 'υ'), ("--tag", 'τ'), ("--check", 'c')], false⟩ 1
    (fun p name g => do
      match g.valueOf? 'a' with
      | some "crc" | some "bsd" | some "sysv" | none =>
        let fine ← eachFile (orInput g.operands) fun file => do
          match ← content p file with
          | .error e =>
            complain p name (shownIfNeeded file ++ ": " ++ e.text)
            return false
          | .ok text =>
            let bytes := toBytes text
            let title := if g.operands.isEmpty then "" else " " ++ file
            p.say (toString (Digest.crc bytes) ++ " " ++ toString bytes.size ++ title ++ "\n")
            return true
        return statusOf fine
      | some algorithm =>
        match digestKinds.lookup (algorithm ++ "sum") with
        | none =>
          complain p name ("invalid argument " ++ shown algorithm ++ " for '--algorithm'")
          return 1
        | some k =>
          let tag := if g.has 'υ' then [] else ["--tag"]
          k.program p (name :: tag ++ "--" :: g.operands)) p arguments

/-- Write sums of files and how many blocks they fill. -/
def blockSums : Program :=
  withOptions ⟨['r', 's'], [], [("--sysv", 's')], false⟩ 1 fun p name g => do
    let sysv := (g.options.getLast?).any (·.1 == 's')
    let fine ← eachFile (orInput g.operands) fun file => do
      match ← content p file with
      | .error e =>
        complain p name (shownIfNeeded file ++ ": " ++ e.text)
        return false
      | .ok text =>
        let bytes := toBytes text
        let padded (fill : Char) (width n : Nat) : String :=
          let s := toString n
          "".pushn fill (width - s.length) ++ s
        if sysv then
          let title := if g.operands.isEmpty then "" else " " ++ file
          p.say (toString (Digest.foldedSum bytes) ++ " " ++ toString ((bytes.size + 511) / 512) ++ title ++ "\n")
        else
          let title := if g.operands.isEmpty then "" else " " ++ file
          p.say (padded '0' 5 (Digest.turningSum bytes) ++ " " ++ padded ' ' 5 ((bytes.size + 1023) / 1024) ++
            title ++ "\n")
        return true
    return statusOf fine

end CompileTree.Shell.Utility
