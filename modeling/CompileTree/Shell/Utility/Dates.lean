import CompileTree.Shell.Utility.Names

/-! # Dates

Points in time as texts spell them and formats show them. Time is counted in
nanoseconds since the start of 1970.
-/

namespace CompileTree.Shell.Utility

open Files

/-- A day and a time of it. -/
structure Moment where
  year : Int
  month : Int
  day : Int
  hour : Int
  minute : Int
  second : Int
  nano : Nat
  deriving DecidableEq, Repr

namespace Moment

/-- How many days lie between the start of 1970 and a date. -/
def daysOf (year month day : Int) : Int :=
  let months := year * 12 + (month - 1)
  let (year, month) := (months / 12, months % 12 + 1)
  let y := if month ≤ 2 then year - 1 else year
  let era := y / 400
  let yearOfEra := y - era * 400
  let dayOfYear := (153 * (if 2 < month then month - 3 else month + 9) + 2) / 5
  era * 146097 + yearOfEra * 365 + yearOfEra / 4 - yearOfEra / 100 + dayOfYear + day - 1 - 719468

/-- The date that lies a number of days behind the start of 1970. -/
def ofDays (days : Int) : Int × Int × Int :=
  let z := days + 719468
  let era := z / 146097
  let dayOfEra := z - era * 146097
  let yearOfEra := (dayOfEra - dayOfEra / 1460 + dayOfEra / 36524 - dayOfEra / 146096) / 365
  let dayOfYear := dayOfEra - (365 * yearOfEra + yearOfEra / 4 - yearOfEra / 100)
  let mp := (5 * dayOfYear + 2) / 153
  let day := dayOfYear - (153 * mp + 2) / 5 + 1
  let month := if mp < 10 then mp + 3 else mp - 9
  let year := yearOfEra + era * 400
  (if month ≤ 2 then year + 1 else year, month, day)

/-- The seconds since the start of 1970. -/
def seconds (m : Moment) : Int :=
  daysOf m.year m.month m.day * 86400 + m.hour * 3600 + m.minute * 60 + m.second

/-- The moment of a time in nanoseconds. -/
def ofTime (time : Int) : Moment :=
  let nano := (time % 1000000000).toNat
  let s := time / 1000000000
  let (year, month, day) := ofDays (s / 86400)
  let rest := s % 86400
  ⟨year, month, day, rest / 3600, rest / 60 % 60, rest % 60, nano⟩

/-- The time of a moment in nanoseconds. -/
def time (m : Moment) : Int := m.seconds * 1000000000 + m.nano

/-- The day of the week, Sunday being the first one. -/
def weekday (m : Moment) : Int := (daysOf m.year m.month m.day + 4) % 7

/-- The day of the year, the first one being zero. -/
def yearday (m : Moment) : Int := daysOf m.year m.month m.day - daysOf m.year 1 1

end Moment

/-- The names of the days of the week. -/
def weekdayNames : List String :=
  ["Sunday", "Monday", "Tuesday", "Wednesday", "Thursday", "Friday", "Saturday"]

/-- The names of the months. -/
def monthNames : List String :=
  ["January", "February", "March", "April", "May", "June", "July", "August", "September",
    "October", "November", "December"]

namespace Moment

/-- The year and the number of the week in it, where the first week holds the fourth day. -/
def isoWeek (m : Moment) : Int × Int :=
  let days := daysOf m.year m.month m.day
  let weekday := (days + 3) % 7
  let thursday := days - weekday + 3
  let (year, _, _) := ofDays thursday
  (year, (thursday - daysOf year 1 1) / 7 + 1)

/-- A number filled up on the left. -/
def padded (fill : Char) (width : Nat) (n : Int) : String :=
  let digits := toString n.natAbs
  let sign := if n < 0 then "-" else ""
  let missing := width - sign.length - digits.length
  if fill = '0' then sign ++ "".pushn '0' missing ++ digits
  else "".pushn fill missing ++ sign ++ digits

/-- A letter of a format with what fills numbers up and how wide they are. -/
structure Field where
  /-- Nothing stands for what is usual, a hyphen for none. -/
  fill : Option Char
  upper : Bool
  width : Option Nat

/-- A number in a field. -/
def Field.number (f : Field) (fill : Char) (width : Nat) (n : Int) : String :=
  match f.fill with
  | some '-' => padded '0' 0 n
  | some c => padded c (f.width.getD width) n
  | none => padded fill (f.width.getD width) n

/-- A text in a field. -/
def Field.text (f : Field) (s : String) : String :=
  let s := if f.upper then s.toUpper else s
  let fill := match f.fill with
    | some '0' => '0'
    | _ => ' '
  "".pushn fill (f.width.getD 0 - s.length) ++ s

/-- What a letter of a format stands for; letters that stand for several others are spelled
    by a format. -/
def letter? (m : Moment) (f : Field) (colons : Nat) (c : Char) : Option (String ⊕ String) :=
  let hour12 := if m.hour % 12 = 0 then 12 else m.hour % 12
  let number (fill : Char) (width : Nat) (n : Int) := some (Sum.inl (f.number fill width n))
  let text (s : String) := some (Sum.inl (f.text s))
  match c with
  | '%' => text "%"
  | 'n' => text "\n"
  | 't' => text "\t"
  | 'a' => text ((weekdayNames[m.weekday.toNat]?.getD "").take 3).copy
  | 'A' => text (weekdayNames[m.weekday.toNat]?.getD "")
  | 'b' | 'h' => text ((monthNames[(m.month - 1).toNat]?.getD "").take 3).copy
  | 'B' => text (monthNames[(m.month - 1).toNat]?.getD "")
  | 'C' => number '0' 2 (m.year / 100)
  | 'd' => number '0' 2 m.day
  | 'e' => number ' ' 2 m.day
  | 'g' => number '0' 2 (m.isoWeek.1 % 100)
  | 'G' => number '0' 4 m.isoWeek.1
  | 'H' => number '0' 2 m.hour
  | 'I' => number '0' 2 hour12
  | 'j' => number '0' 3 (m.yearday + 1)
  | 'k' => number ' ' 2 m.hour
  | 'l' => number ' ' 2 hour12
  | 'm' => number '0' 2 m.month
  | 'M' => number '0' 2 m.minute
  | 'N' =>
    let digits := padded '0' 9 m.nano
    let digits := match f.width with
      | some w => if w < 9 then (digits.take w).copy else digits.pushn '0' (w - 9)
      | none => digits
    some (Sum.inl (if f.fill == some '-' then
      String.ofList ((digits.toList.reverse.dropWhile (· == '0')).reverse) else digits))
  | 'p' => text (if m.hour < 12 then "AM" else "PM")
  | 'P' => text (if m.hour < 12 then "am" else "pm")
  | 'q' => number '0' 1 ((m.month - 1) / 3 + 1)
  | 's' => number '0' 1 m.seconds
  | 'S' => number '0' 2 m.second
  | 'u' => number '0' 1 (if m.weekday = 0 then 7 else m.weekday)
  | 'U' => number '0' 2 ((m.yearday + 7 - m.weekday) / 7)
  | 'V' => number '0' 2 m.isoWeek.2
  | 'w' => number '0' 1 m.weekday
  | 'W' => number '0' 2 ((m.yearday + 7 - (m.weekday + 6) % 7) / 7)
  | 'y' => number '0' 2 (m.year % 100)
  | 'Y' => number '0' 4 m.year
  | 'z' => text (match colons with
    | 0 => "+0000"
    | 1 => "+00:00"
    | 2 => "+00:00:00"
    | _ => "+00")
  | 'Z' => text "UTC"
  | 'c' => some (Sum.inr "%a %b %e %H:%M:%S %Y")
  | 'D' | 'x' => some (Sum.inr "%m/%d/%y")
  | 'F' => some (Sum.inr "%Y-%m-%d")
  | 'r' => some (Sum.inr "%I:%M:%S %p")
  | 'R' => some (Sum.inr "%H:%M")
  | 'T' | 'X' => some (Sum.inr "%H:%M:%S")
  | '+' => none
  | _ => none

/-- The directive behind a percent sign: its field, its colons and its letter, and what
    follows it. -/
def directive : List Char → Field → Nat → Field × Nat × Option Char × List Char
  | c :: cs, f, colons =>
    if c ∈ ['-', '_', '0', '+'] && f.width.isNone then
      directive cs { f with fill := some (if c = '_' then ' ' else if c = '+' then '0' else c) } colons
    else if c = '^' then directive cs { f with upper := true } colons
    else if c = '#' then directive cs f colons
    else if c = ':' then directive cs f (colons + 1)
    else if c.isDigit then
      directive cs { f with width := some (10 * f.width.getD 0 + (c.toNat - 48)) } colons
    else (f, colons, some c, cs)
  | [], f, colons => (f, colons, none, [])

/-- A moment as a format shows it; `depth` bounds how deep letters stand for others, and
    `fuel` the length of the format. -/
def formatWithin (m : Moment) : Nat → Nat → List Char → List Char
  | _, 0, _ | 0, _, _ | _, _, [] => []
  | depth + 1, fuel + 1, '%' :: cs =>
    let (f, colons, letter, rest) := directive cs ⟨none, false, none⟩ 0
    match letter.map fun c => m.letter? f colons c with
    | some (some (.inl text)) => text.toList ++ formatWithin m (depth + 1) fuel rest
    | some (some (.inr format)) =>
      let inner := formatWithin m depth (format.length + 1) format.toList
      (f.text (String.ofList inner)).toList ++ formatWithin m (depth + 1) fuel rest
    | _ =>
      '%' :: cs.take (cs.length - rest.length) ++ formatWithin m (depth + 1) fuel rest
  | depth + 1, fuel + 1, c :: cs => c :: formatWithin m (depth + 1) fuel cs

/-- A moment as a format shows it. -/
def format (m : Moment) (text : String) : String :=
  String.ofList (m.formatWithin 3 (text.length + 1) text.toList)

example : ofTime 946684799000000000 = ⟨1999, 12, 31, 23, 59, 59, 0⟩ := by decide

example : (ofTime 946684799000000000).time = 946684799000000000 := by decide

end Moment

/-- What was read of a text that spells a date. -/
structure DateReading where
  date : Option (Int × Int × Int)
  clock : Option (Int × Int × Int × Nat)
  /-- Minutes that the clock is ahead. -/
  zone : Option Int
  weekday : Option (Int × Int)
  /-- A point in time, in nanoseconds. -/
  stamp : Option Int
  years : Int
  months : Int
  days : Int
  seconds : Int

namespace DateReading

/-- The parts of a text that spells a date: numbers with their signs and marks, and words. -/
def parts (cs : List Char) : List String :=
  let cs := cs.map fun c => if c = ',' then ' ' else c.toLower
  let kind (c : Char) : Nat := if c.isAlpha then 1 else if c = ' ' || c = '\t' then 0 else 2
  ((cs.splitBy fun a b => kind a == kind b && kind a != 0).map String.ofList).filter
    fun s => s ≠ " " && s ≠ "\t"

/-- The number that a part spells, with its sign. -/
def number? (part : String) : Option Int :=
  match part.toList with
  | '-' :: ds => (Utility.number? (String.ofList ds)).map fun n => -Int.ofNat n
  | '+' :: ds => (Utility.number? (String.ofList ds)).map Int.ofNat
  | _ => (Utility.number? part).map Int.ofNat

/-- The position of a name that a word stands for, which may be cut short to three letters. -/
def nameIndex? (all : List String) (word : String) : Option Nat :=
  let bare := if word.endsWith "." then (word.dropEnd 1).copy else word
  all.findIdx? fun n =>
    let n := n.toLower
    n = bare || (3 ≤ bare.length && n.startsWith bare && bare.length ≤ 4)

/-- A time of the day. -/
def clock? (part : String) : Option (Int × Int × Int × Nat) := do
  let ps := part.toList.splitOn ':'
  let whole (cs : List Char) : Option Int := number? (String.ofList cs)
  match ps with
  | [h, m] =>
    let (h, m) := (← whole h, ← whole m)
    if h < 24 && m < 60 then some (h, m, 0, 0) else none
  | [h, m, s] =>
    let (h, m) := (← whole h, ← whole m)
    let second ← whole (s.takeWhile Char.isDigit)
    let rest := s.dropWhile Char.isDigit
    let nano ← match rest with
      | [] => some 0
      | c :: ds =>
        if (c = '.' || c = ',') && ds.all Char.isDigit && !ds.isEmpty then
          some (Nat.ofDigitChars 10 ((ds ++ List.replicate 9 '0').take 9) 0)
        else none
    if h < 24 && m < 60 && second ≤ 60 then some (h, m, second, nano) else none
  | _ => none

/-- A date of numbers. -/
def date? (part : String) : Option (Int × Int × Int) := do
  let all (sep : Char) : Option (List Int) :=
    (part.toList.splitOn sep).mapM fun cs => number? (String.ofList cs)
  let valid (y m d : Int) : Option (Int × Int × Int) :=
    let last := Moment.daysOf y (m + 1) 1 - Moment.daysOf y m 1
    if 1 ≤ m && m ≤ 12 && 1 ≤ d && d ≤ last then some (y, m, d) else none
  let full (y : Int) : Int := if y < 69 then y + 2000 else if y < 100 then y + 1900 else y
  if part.length = 8 && part.toList.all Char.isDigit then
    let n ← number? part
    return ← valid (n / 10000) (n / 100 % 100) (n % 100)
  match all '-', all '/' with
  | some [y, m, d], _ => valid (full y) m d
  | _, some [m, d, y] => if 31 < m then valid m d y else valid (full y) m d
  | _, some [m, d] => valid 2025 m d
  | _, _ => none

/-- What a unit of time adds. -/
def addUnit (r : DateReading) (n : Int) (unit : String) : Option DateReading :=
  let unit := if unit.endsWith "s" then (unit.dropEnd 1).copy else unit
  match unit with
  | "year" => some { r with years := r.years + n }
  | "month" => some { r with months := r.months + n }
  | "fortnight" => some { r with days := r.days + 14 * n }
  | "week" => some { r with days := r.days + 7 * n }
  | "day" => some { r with days := r.days + n }
  | "hour" => some { r with seconds := r.seconds + 3600 * n }
  | "minute" | "min" => some { r with seconds := r.seconds + 60 * n }
  | "second" | "sec" => some { r with seconds := r.seconds + n }
  | _ => none

/-- A difference to the time of the meridian, in minutes. -/
def zone? (part : String) : Option Int := do
  let sign : Int := if part.startsWith "-" then -1 else 1
  let body := (part.drop 1).copy
  match body.toList.splitOn ':' with
  | [h, m] =>
    some (sign * (60 * (← number? (String.ofList h)) + (← number? (String.ofList m))))
  | [h] =>
    let n ← number? (String.ofList h)
    some (sign * (if h.length ≤ 2 then 60 * n else n / 100 * 60 + n % 100))
  | _ => none

/-- Read the parts of a text; `fuel` bounds their number. -/
def read : Nat → DateReading → List String → Option DateReading
  | 0, _, _ => none
  | _, r, [] => some r
  | fuel + 1, r, part :: rest =>
    let first := part.toList.headD ' '
    if first = '@' then
      match number? (part.drop 1).copy with
      | some n => read fuel { r with stamp := some (n * 1000000000) } rest
      | none => none
    else if first.isAlpha then
      let ago (r : DateReading) (rest : List String) : Option DateReading :=
        match rest with
        | "ago" :: rest =>
          let r := { r with years := -r.years, months := -r.months, days := -r.days, seconds := -r.seconds }
          read fuel r rest
        | rest => read fuel r rest
      match part with
      | "now" | "today" => read fuel r rest
      | "yesterday" => read fuel { r with days := r.days - 1 } rest
      | "tomorrow" => read fuel { r with days := r.days + 1 } rest
      | "midnight" => read fuel { r with clock := some (0, 0, 0, 0) } rest
      | "noon" => read fuel { r with clock := some (12, 0, 0, 0) } rest
      | "z" | "utc" | "gmt" | "ut" =>
        match rest with
        | next :: more =>
          match if next.startsWith "+" || next.startsWith "-" then zone? next else none with
          | some minutes => read fuel { r with zone := some minutes } more
          | none => read fuel { r with zone := some 0 } rest
        | [] => some { r with zone := some 0 }
      | "t" => read fuel r rest
      | "am" | "pm" =>
        match r.clock with
        | some (h, m, s, n) =>
          let h := if part = "am" then (if h = 12 then 0 else h) else if h = 12 then 12 else h + 12
          read fuel { r with clock := some (h, m, s, n) } rest
        | none => none
      | "next" | "last" | "this" =>
        let n : Int := if part = "next" then 1 else if part = "last" then -1 else 0
        match rest with
        | unit :: rest =>
          match addUnit r n unit, nameIndex? weekdayNames unit with
          | some r, _ => ago r rest
          | none, some i => read fuel { r with weekday := some (i, n) } rest
          | none, none => none
        | [] => none
      | word =>
        match nameIndex? monthNames word, nameIndex? weekdayNames word, addUnit r 1 word with
        | some m, _, _ =>
          let month : Int := m + 1
          match rest with
          | d :: more =>
            match number? d, more with
            | some day, y :: more' =>
              if 31 < day then
                read fuel { r with date := some (day, month, (r.date.map (·.2.2)).getD 1) } more
              else
                match number? y with
                | some year =>
                  if 31 < year then read fuel { r with date := some (year, month, day) } more'
                  else read fuel { r with date := some (2025, month, day) } more
                | none => read fuel { r with date := some (2025, month, day) } more
            | some day, [] =>
              if 31 < day then
                some { r with date := some (day, month, (r.date.map (·.2.2)).getD 1) }
              else some { r with date := some (2025, month, day) }
            | none, _ => none
          | [] => none
        | none, some w, _ => read fuel { r with weekday := some (w, 0) } rest
        | none, none, some r => ago r rest
        | none, none, none => none
    else
      match date? part, clock? part, number? part with
      | some d, _, _ => read fuel { r with date := some d } rest
      | none, some c, _ => read fuel { r with clock := some c } rest
      | none, none, some n =>
        match rest with
        | unit :: more =>
          match addUnit r n unit with
          | some r =>
            match more with
            | "ago" :: more =>
              let r := { r with
                years := -r.years, months := -r.months, days := -r.days, seconds := -r.seconds }
              read fuel r more
            | more => read fuel r more
          | none =>
            if unit = "am" || unit = "pm" then
              read fuel { r with clock := some (n, 0, 0, 0) } rest
            else
              match nameIndex? monthNames unit with
              | some m =>
                match more with
                | y :: more' =>
                  match number? y with
                  | some year => read fuel { r with date := some (year, m + 1, n) } more'
                  | none => read fuel { r with date := some (2025, m + 1, n) } more
                | [] => some { r with date := some (2025, m + 1, n) }
              | none => none
        | [] => none
      | none, none, none =>
        let split := part.toList.dropWhile fun c => c.isDigit || c = ':' || c = '.'
        let head := part.toList.take (part.length - split.length)
        match clock? (String.ofList head), zone? (String.ofList split) with
        | some c, some z => read fuel { r with clock := some c, zone := some z } rest
        | _, _ =>
          match (if first = '+' || first = '-' then zone? part else none), r.clock with
          | some z, some _ => read fuel { r with zone := some z } rest
          | _, _ => none

/-- The time that a text spells, in nanoseconds, seen from the present time. -/
def time? (now : Int) (text : String) : Option Int := do
  let start : DateReading := ⟨none, none, none, none, none, 0, 0, 0, 0⟩
  let ps := parts text.toList
  let r ← read (2 * ps.length + 2) start ps
  let present := Moment.ofTime now
  match r.stamp with
  | some t => some (t + (r.seconds + 86400 * r.days) * 1000000000)
  | none =>
    let (y, m, d) := r.date.getD (present.year, present.month, present.day)
    let isAbsolute := r.date.isSome || r.weekday.isSome
    let (h, mi, s, n) := r.clock.getD
      (if isAbsolute then (0, 0, 0, 0) else (present.hour, present.minute, present.second, present.nano))
    let days := Moment.daysOf (y + r.years) (m + r.months) d + r.days
    let days := match r.weekday with
      | some (w, n) =>
        let ahead := (w - (days + 4) % 7) % 7
        days + ahead + 7 * (if 0 < n && ahead ≠ 0 then n - 1 else n)
      | none => days
    let seconds := days * 86400 + h * 3600 + mi * 60 + s - 60 * r.zone.getD 0 + r.seconds
    some (seconds * 1000000000 + n)

end DateReading

/-- The present time in nanoseconds. -/
def presentTime : Act Int := do return Tree.startTime + (← get).clock

/-- Write the time. -/
def date : Program := fun p arguments => do
  let guarded := arguments.map fun a => if a = "-I" then "-Idate" else a
  withOptions ⟨['u', 'R'], ['d', 'f', 'r', 's', 'I', 'ρ'],
      [("--date", 'd'), ("--utc", 'u'), ("--universal", 'u'), ("--rfc-email", 'R'),
        ("--rfc-2822", 'R'), ("--reference", 'r'), ("--file", 'f'), ("--set", 's'),
        ("--iso-8601?", 'I'), ("--rfc-3339", 'ρ')], false⟩ 1
    (fun p name g => do
      let now ← presentTime
      let isoFormat (unit : String) (gap : String) : String :=
        match unit with
        | "hours" => "%Y-%m-%d" ++ gap ++ "%H%:z"
        | "minutes" => "%Y-%m-%d" ++ gap ++ "%H:%M%:z"
        | "seconds" => "%Y-%m-%d" ++ gap ++ "%H:%M:%S%:z"
        | "ns" => "%Y-%m-%d" ++ gap ++ "%H:%M:%S" ++ (if gap = "T" then "," else ".") ++ "%N%:z"
        | _ => "%Y-%m-%d"
      let usual := match (g.options.filter fun o => o.1 ∈ ['R', 'I', 'ρ']).getLast? with
        | some ('R', _) => "%a, %d %b %Y %H:%M:%S %z"
        | some ('I', unit) => isoFormat unit "T"
        | some (_, unit) => isoFormat unit " "
        | none => "%a %b %e %H:%M:%S %Z %Y"
      let format ← match g.operands with
        | [] => pure usual
        | a :: extra :: _ =>
          let _ := a
          return ← misuse p name ("extra operand " ++ marked extra) 1
        | [a] =>
          if a.startsWith "+" then pure (a.drop 1).copy
          else
            complain p name ("invalid date " ++ marked a)
            return 1
      match g.valueOf? 'd', g.valueOf? 'r' with
      | some text, _ =>
        match DateReading.time? now text with
        | some t =>
          p.say ((Moment.ofTime t).format format ++ "\n")
          return 0
        | none =>
          complain p name ("invalid date " ++ marked text)
          return 1
      | none, some file =>
        match ← found p true file with
        | .ok (l, _) =>
          p.say ((Moment.ofTime ((← get).files.attributesAt l).time).format format ++ "\n")
          return 0
        | .error e =>
          complain p name (shownIfNeeded file ++ ": " ++ e.text)
          return 1
      | none, none =>
        p.say ((Moment.ofTime now).format format ++ "\n")
        return 0) p guarded

end CompileTree.Shell.Utility
