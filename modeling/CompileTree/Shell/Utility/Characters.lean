import CompileTree.Shell.Pattern
import CompileTree.Shell.Utility.Streams

/-! # Replacing characters

Sets of characters are spelled by characters, ranges, classes and repetitions. The
characters of one set are replaced by those of another one, deleted or squeezed.
-/

namespace CompileTree.Shell.Utility

open Files

/-- A part of a set as it is spelled. -/
inductive SetItem where
  | char (c : Char)
  | range (first last : Char)
  | kind (name : String)
  | repeated (c : Char) (count : Nat)
  deriving DecidableEq, Repr

namespace SetItem

/-- A character of a set, with whether a backslash stands before it. -/
abbrev Mark := Char × Bool

/-- The characters that a text spells; a backslash changes what follows it. `fuel` bounds
    their number. -/
def marks : Nat → List Char → List Mark
  | 0, _ => []
  | _ + 1, [] => []
  | fuel + 1, '\\' :: c :: rest =>
    let digits := ((c :: rest).take 3).takeWhile fun d => '0' ≤ d && d ≤ '7'
    if digits.isEmpty then
      let meant := match c with
        | 'a' => '\x07'
        | 'b' => '\x08'
        | 'f' => '\x0c'
        | 'n' => '\n'
        | 'r' => '\r'
        | 't' => '\t'
        | 'v' => '\x0b'
        | c => c
      (meant, true) :: marks fuel rest
    else
      let digits := if 255 < Nat.ofDigitChars 8 digits 0 then digits.take 2 else digits
      (Char.ofNat (Nat.ofDigitChars 8 digits 0), true) ::
        marks fuel ((c :: rest).drop digits.length)
  | fuel + 1, c :: rest => (c, false) :: marks fuel rest

/-- The item at the start of a set that an opening bracket begins, with what follows it. -/
def bracketed? (ms : List Mark) : Option (Except String (SetItem × List Mark)) :=
  let closes (mark : Char) (ms : List Mark) : Option (List Mark × List Mark) :=
    (List.range ms.length).findSome? fun n =>
      match ms.drop n with
      | (c, false) :: (']', false) :: rest => if c = mark then some (ms.take n, rest) else none
      | _ => none
  match ms with
  | ('[', false) :: (':', false) :: rest =>
    (closes ':' rest).map fun (name, after) =>
      let name := String.ofList (name.map (·.1))
      if name ∈ ["alnum", "alpha", "blank", "cntrl", "digit", "graph", "lower", "print", "punct",
          "space", "upper", "xdigit"] then .ok (.kind name, after)
      else .error ("invalid character class " ++ marked name)
  | ('[', false) :: ('=', false) :: rest =>
    (closes '=' rest).map fun (name, after) =>
      match name with
      | [(c, _)] => .ok (.char c, after)
      | name => .error (String.ofList (name.map (·.1)) ++
          ": equivalence class operand must be a single character")
  | ('[', false) :: (c, _) :: ('*', false) :: rest =>
    let digits := rest.takeWhile fun m => m.1.isDigit && !m.2
    match rest.drop digits.length with
    | (']', false) :: after =>
      let ds := digits.map (·.1)
      let count := Nat.ofDigitChars (if ds.head? = some '0' then 8 else 10) ds 0
      some (.ok (.repeated c count, after))
    | _ => none
  | _ => none

/-- The items that characters spell; `fuel` bounds their number. -/
def ofMarks : Nat → List Mark → Except String (List SetItem)
  | 0, _ => .ok []
  | _ + 1, [] => .ok []
  | fuel + 1, ms@(m :: rest) => do
    match bracketed? ms with
    | some found =>
      let (item, after) ← found
      return item :: (← ofMarks fuel after)
    | none =>
      match rest with
      | ('-', false) :: (d, _) :: after =>
        if d < m.1 then
          let shownMark (c : Char) : String :=
            if isVisible c then String.singleton c else "\\" ++ String.ofList (escape c)
          throw ("range-endpoints of '" ++ shownMark m.1 ++ "-" ++ shownMark d ++
            "' are in reverse collating sequence order")
        return .range m.1 d :: (← ofMarks fuel after)
      | rest => return .char m.1 :: (← ofMarks fuel rest)

/-- The items that a text spells. -/
def ofText (text : String) : Except String (List SetItem) :=
  ofMarks (text.length + 1) (marks (text.length + 1) text.toList)

/-- All characters in order. -/
def every : List Char := (List.range 256).map Char.ofNat

/-- The characters of an item; `fill` is how often one stands that fills up a set. -/
def chars (fill : Nat) : SetItem → List Char
  | .char c => [c]
  | .range a b => (List.range (b.toNat - a.toNat + 1)).map fun i => Char.ofNat (a.toNat + i)
  | .kind name => every.filter (Member.isOfKind · name)
  | .repeated c 0 => List.replicate fill c
  | .repeated c n => List.replicate n c

/-- Whether an item fills up its set. -/
def fills : SetItem → Bool
  | .repeated _ 0 => true
  | _ => false

/-- The characters of a set that has to have a size. -/
def expand (items : List SetItem) (size : Nat) : List Char :=
  let fixed := (items.flatMap (chars 0)).length
  items.flatMap (chars (size - fixed))

/-- Whether an item is a class of letters of one case. -/
def isCase : SetItem → Bool
  | .kind name => name = "upper" || name = "lower"
  | _ => false

/-- Where classes of letters of one case begin in a set. -/
def caseStarts : Nat → List SetItem → List Nat
  | _, [] => []
  | n, i :: rest =>
    let after := caseStarts (n + (i.chars 0).length) rest
    if i.isCase then n :: after else after

/-- What is wrong with sets that are to be exchanged. -/
def fault? (source target : List SetItem) (complements truncates : Bool) : Option String :=
  if (target.filter fills).length > 1 then
    some "only one [c*] repeat construct may appear in string2"
  else if target.isEmpty && !truncates then
    some "when not truncating set1, string2 must be non-empty"
  else if target.any fun i => (match i with | .kind _ => true | _ => false) && !i.isCase then
    some ("when translating, the only character classes that may appear in\n" ++
      "string2 are 'upper' and 'lower'")
  else if (caseStarts 0 target).any fun n => !(caseStarts 0 source).contains n then
    some "misaligned [:upper:] and/or [:lower:] construct"
  else if complements && source.any (fun | .kind _ => true | _ => false) &&
      (expand target 256).eraseDups.length ≠ 1 then
    some ("when translating with complemented character classes,\n" ++
      "string2 must map all characters in the domain to one")
  else none

end SetItem

/-- What becomes of characters. -/
structure Exchange where
  /-- What is written for each character. -/
  table : Array Char
  deleted : Array Bool
  squeezed : Array Bool

/-- The characters that are written for others; `last` is the one before them. -/
def Exchange.run (x : Exchange) : List Char → Option Char → List Char → List Char × Option Char
  | [], last, done => (done.reverse, last)
  | c :: cs, last, done =>
    if x.deleted[c.toNat]?.getD false then x.run cs last done
    else
      let d := x.table[c.toNat]?.getD c
      if last == some d && x.squeezed[d.toNat]?.getD false then x.run cs last done
      else x.run cs (some d) (d :: done)

/-- Replace, delete or squeeze characters of the input. -/
def translate : Program :=
  withOptions ⟨['c', 'C', 'd', 's', 't'], [],
      [("--complement", 'c'), ("--delete", 'd'), ("--squeeze-repeats", 's'),
        ("--truncate-set1", 't')], true⟩ 1
    fun p name g => do
      let deletes := g.has 'd'
      let squeezes := g.has 's'
      let complements := g.has 'c' || g.has 'C'
      let least := if deletes == squeezes then 2 else 1
      let most := if deletes && !squeezes then 1 else 2
      let tryHelp : Act Nat := do
        p.complain ("Try '" ++ name ++ " --help' for more information.")
        return 1
      if g.operands.length < least then
        match g.operands.getLast? with
        | none => return ← misuse p name "missing operand" 1
        | some last =>
          complain p name ("missing operand after " ++ marked last)
          p.complain (if squeezes then
              "Two strings must be given when both deleting and squeezing repeats."
            else "Two strings must be given when translating.")
          return ← tryHelp
      if let some extra := g.operands[most]? then
        complain p name ("extra operand " ++ marked extra)
        if g.operands.length = 2 then
          p.complain "Only one string may be given when deleting without squeezing repeats."
        return ← tryHelp
      match g.operands.mapM SetItem.ofText with
      | .error text =>
        complain p name text
        return 1
      | .ok sets =>
        let first := sets.headD []
        if first.any fun | .repeated .. => true | _ => false then
          complain p name "the [c*] repeat construct may not appear in string1"
          return 1
        let listed := SetItem.expand first 0
        let source := if complements then SetItem.every.filter (!listed.contains ·) else listed
        let translates := !deletes && sets.length = 2
        let second := sets[1]?.getD []
        let fault := if translates then SetItem.fault? first second complements (g.has 't') else none
        match fault with
        | some text =>
          complain p name text
          return 1
        | none =>
          let target := SetItem.expand second source.length
          let isIn (set : List Char) : Array Bool :=
            (SetItem.every.map set.contains).toArray
          let pairs := if g.has 't' then source.zip target
            else source.zip (target ++ List.replicate (source.length - target.length)
              (target.getLastD 'x'))
          let table := if translates then
              pairs.foldl (fun t (a, b) => t.set! a.toNat b) SetItem.every.toArray
            else SetItem.every.toArray
          let x : Exchange :=
            { table, deleted := isIn (if deletes then source else [])
              squeezed := isIn (if !squeezes then []
                else if sets.length = 2 then target else source) }
          match ← openSource p "-" with
          | .error e =>
            complain p name ("read error: " ++ e.text)
            return 1
          | .ok index =>
            let result ← eachBlock index (fun last text => do
              let (cs, last) := x.run text.toList last []
              p.say (String.ofList cs)
              return (!(← isLost p), last)) none
            match result with
            | .ok _ => return 0
            | .error e =>
              complain p name ("read error: " ++ e.text)
              return 1

end CompileTree.Shell.Utility
