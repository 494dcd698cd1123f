import CompileTree.Log
import CompileTree.Proofs.Files.Change
import Mathlib

/-! # Logs of many workers

Each hash has a place of its own below a log directory: the two directories and the
file that it is spread over keep all of its bits (`components_place_injective`).

Workers make their logs in the same files, each with the time and the process that it
knows, which may be the same for all. `Step` is one change that one of them makes or
sees refused; between any two of its own, the others may take as many as they like.

Nothing that stands is ever touched (`Steps.keeps`). What a worker has, it has at its
own place (`Sound`), and what it found on the way is known (`Known`); both are kept by
every step. So no two workers have one log (`logs_apart`).
-/

namespace CompileTree

open Files

namespace Log

/-! ## Where logs are kept -/

section Places

variable {directory : Path} {hash hash' : UInt64}

/-- The names that a hash is spread over. -/
def placeNames (hash : UInt64) : List String :=
  [String.ofList (Text.paddedHex 2 (hash.toNat % 64)),
    String.ofList (Text.paddedHex 2 (hash.toNat / 64 % 64)),
    String.ofList (Text.paddedHex 5 (hash.toNat / 4096)) ++ ".log"]

theorem place_eq_descend (directory : Path) (hash : UInt64) :
    place directory hash = directory.descend ("standalone" :: placeNames hash) := rfl

/-- Digits are a name, whatever ordinary characters follow them. -/
theorem isName_of_digits {digits : List Char} {rest : String} (nonempty : digits ≠ [])
    (hex : ∀ c ∈ digits, Text.IsHexDigit c) (plain : '/' ∉ rest.toList) :
    Path.IsName (String.ofList digits ++ rest) := by
  have noSlash : '/' ∉ digits := fun slash => absurd (hex '/' slash) (by decide)
  obtain ⟨c, cs, rfl⟩ := List.exists_cons_of_ne_nil nonempty
  have notDot : c ≠ '.' := by
    rintro rfl
    exact absurd (hex '.' List.mem_cons_self) (by decide)
  have split : '/' ∉ (String.ofList (c :: cs) ++ rest).toList := by
    rw [String.toList_append, String.toList_ofList]
    exact List.not_mem_append noSlash plain
  refine ⟨?_, split, ?_, ?_⟩ <;>
    · intro same
      have first := congrArg (·.toList.head?) same
      simp [notDot] at first

theorem isName_placeNames : ∀ name ∈ placeNames hash, Path.IsName name := by
  have some : ∀ {width n : Nat}, Text.paddedHex (width + 1) n ≠ [] := fun {width n} none => by
    have long := Text.le_length_paddedHex (width + 1) n
    rw [none] at long
    exact absurd long (Nat.not_succ_le_zero width)
  have bare : ∀ {width n : Nat}, Path.IsName (String.ofList (Text.paddedHex (width + 1) n)) := by
    intro width n
    have plain : '/' ∉ "".toList := by decide
    simpa using isName_of_digits some Text.isHexDigit_of_mem_paddedHex plain
  simp only [placeNames, List.forall_mem_cons, List.not_mem_nil, false_implies, implies_true, and_true]
  exact ⟨bare, bare, isName_of_digits some Text.isHexDigit_of_mem_paddedHex (by decide)⟩

/-- The names that a hash is spread over have all of its bits. -/
theorem placeNames_injective (same : placeNames hash = placeNames hash') : hash = hash' := by
  simp only [placeNames, List.cons.injEq, and_true, String.ofList_inj, String.append_left_inj] at same
  obtain ⟨low, middle, high⟩ := same
  have low := Text.paddedHex_injective low
  have middle := Text.paddedHex_injective middle
  have high := Text.paddedHex_injective high
  exact UInt64.toNat_inj.1 (by omega)

theorem components_place_injective
    (same : (place directory hash).components = (place directory hash').components) : hash = hash' := by
  have nonempty : (directory.join ⟨"standalone"⟩).chars ≠ [] := by
    rw [Path.join_eq_of_relative (by decide)]
    split <;> simp [Path.chars]
  rw [place_eq_descend, place_eq_descend, Path.descend_cons, Path.descend_cons] at same
  exact placeNames_injective (Path.descend_injective nonempty isName_placeNames isName_placeNames same)

/-- The place of a hash is spelled by its digits: two names of two each, which have a
    value below `0x40`, and one of at least five. -/
theorem exists_digits_place (directory : Path) (hash : UInt64) :
    ∃ x y z : List Char,
      place directory hash =
        directory.descend ["standalone", String.ofList x, String.ofList y, String.ofList z ++ ".log"] ∧
      (∀ c ∈ x ++ y ++ z, Text.IsHexDigit c) ∧ x.length = 2 ∧ y.length = 2 ∧ 5 ≤ z.length ∧
      Text.hexNumber? x = some (hash.toNat % 0x40) ∧
      Text.hexNumber? y = some (hash.toNat / 0x40 % 0x40) ∧
      Text.hexNumber? z = some (hash.toNat / 0x1000) := by
  have two : ∀ n, (Text.paddedHex 2 (n % 64)).length = 2 := by
    intro n
    have small : n % 64 < Nat.pow 16 2 := Nat.lt_of_lt_of_le (Nat.mod_lt n (by decide)) (by decide)
    exact Text.length_paddedHex small
  refine ⟨_, _, _, place_eq_descend directory hash, ?_, two _, two _, Text.le_length_paddedHex 5 _,
    Text.hexNumber?_paddedHex 2 _, Text.hexNumber?_paddedHex 2 _, Text.hexNumber?_paddedHex 5 _⟩
  refine List.forall_mem_append.2 ⟨List.forall_mem_append.2 ⟨?_, ?_⟩, ?_⟩ <;>
    exact Text.isHexDigit_of_mem_paddedHex

/-- Below any directory two attempts have one place, as a text and as a path, exactly if
    they have one hash; and that is where the digits of the hash lead. -/
theorem location_eq_iff (directory : Path) (time pid number time' pid' number' : Nat) :
    (location directory time pid number = location directory time' pid' number' ↔
        attemptHash time pid number = attemptHash time' pid' number') ∧
      ((location directory time pid number).same (location directory time' pid' number') = true ↔
        attemptHash time pid number = attemptHash time' pid' number') ∧
      ∃ x y z : List Char,
        location directory time pid number =
          directory.descend ["standalone", String.ofList x, String.ofList y, String.ofList z ++ ".log"] ∧
        (∀ c ∈ x ++ y ++ z, Text.IsHexDigit c) ∧ x.length = 2 ∧ y.length = 2 ∧ 5 ≤ z.length ∧
        Text.hexNumber? x = some ((attemptHash time pid number).toNat % 0x40) ∧
        Text.hexNumber? y = some ((attemptHash time pid number).toNat / 0x40 % 0x40) ∧
        Text.hexNumber? z = some ((attemptHash time pid number).toNat / 0x1000) := by
  rw [location, location]
  generalize attemptHash time pid number = hash
  generalize attemptHash time' pid' number' = hash'
  have together : hash = hash' → place directory hash = place directory hash' :=
    congrArg (place directory)
  refine ⟨⟨fun same => ?_, together⟩, ⟨fun same => ?_, fun same => ?_⟩,
    exists_digits_place directory hash⟩
  · exact components_place_injective (congrArg Path.components same)
  · exact components_place_injective (Path.same_iff.1 same)
  · exact Path.same_iff.2 (congrArg Path.components (together same))

end Places

/-! ## Workers -/

/-- Where a worker stands that makes a log. -/
inductive Stage where
  /-- The attempt with the given number is under way. -/
  | trying (number : Nat)
  /-- The attempt with the given number made the file at the given place. -/
  | done (number : Nat) (place : Location)
  | failed (e : Error)

/-- The attempt that a worker is at or ended with; none if it failed. -/
def Stage.number? : Stage → Option Nat
  | .trying number => some number
  | .done number _ => some number
  | .failed _ => none

/-- A worker that makes a log: when it began, the number of its process and where it stands. -/
structure Worker where
  time : Nat
  process : Nat
  stage : Stage

/-- The path of an attempt of a worker. -/
def Worker.path (w : Worker) (directory : Path) (number : Nat) : Path :=
  location directory w.time w.process number

/-- Workers that make logs in the same files. -/
structure Race where
  files : Tree
  workers : List Worker

namespace Race

/-- Let a worker get on to a stage. -/
def advance (r : Race) (i : Nat) (w : Worker) (stage : Stage) : Race :=
  { r with workers := r.workers.set i { w with stage } }

/-- A worker that gets on twice is where it came to last. -/
theorem advance_advance (r : Race) (files : Tree) (i : Nat) (w : Worker) (stage stage' : Stage) :
    advance { r.advance i w stage with files } i { w with stage } stage' =
      advance { r with files } i w stage' := by
  simp only [advance, List.set_set]

/-- A worker is at an attempt. -/
def Tries (r : Race) (i : Nat) (w : Worker) (number : Nat) : Prop :=
  r.workers[i]? = some w ∧ w.stage = .trying number

variable (directory : Path) (working : Location)

/-- One worker gets on. -/
inductive Step : Race → Race → Prop where
  /-- One of the directories that lead to the file of an attempt is made. -/
  | makeDirectory {r : Race} {i w number p t} : r.Tries i w number →
      p.components <+: (w.path directory number).directory.components →
      r.files.makeDirectory working p = .ok t → Step r { r with files := t }
  /-- The file of an attempt is made. -/
  | create {r : Race} {i w number place t} : r.Tries i w number →
      r.files.create working (w.path directory number) = .ok (place, t) →
      Step r (advance { r with files := t } i w (.done number place))
  /-- Something stands already where the file of an attempt would be. -/
  | refused {r : Race} {i w number} : r.Tries i w number →
      r.files.create working (w.path directory number) = .error .alreadyExists →
      Step r (r.advance i w (.trying (number + 1)))
  /-- A worker gives up for another reason. -/
  | fail {r : Race} {i w number e} : r.Tries i w number → Step r (r.advance i w (.failed e))

/-- What the workers may come to. -/
abbrev Steps : Race → Race → Prop := Relation.ReflTransGen (Step directory working)

variable {directory working} {place : Location} {start r r' now next : Race} {i number : Nat}
  {w : Worker} {standing : Option Entry} {stage : Stage}

theorem Step.keeps (h : Step directory working r r') : r.files.Keeps r'.files := by
  cases h with
  | makeDirectory _ _ made =>
      obtain ⟨l, free, rfl, -⟩ := Tree.makeDirectory_eq_ok made
      exact Tree.keeps_put free
  | create _ made =>
      obtain ⟨-, free, rfl⟩ := Tree.create_eq_ok made
      exact Tree.keeps_put free
  | refused | fail => exact .refl _

/-- Whatever stands at some time stays as it is. -/
theorem Steps.keeps (h : Steps directory working r r') : r.files.Keeps r'.files := by
  induction h with
  | refl => exact .refl _
  | tail _ hstep ih => exact ih.trans hstep.keeps

theorem Tries.get?_advance (h : r.Tries i w number) {j : Nat} {v : Worker} :
    (r.advance i w stage).workers[j]? = some v ↔
      (j = i ∧ v = { w with stage }) ∨ (j ≠ i ∧ r.workers[j]? = some v) := by
  obtain ⟨bound, -⟩ := List.getElem?_eq_some_iff.1 h.1
  rw [advance, List.getElem?_set]
  grind

/-! ## Who has a log -/

/-- Someone has the log that an attempt made. -/
def Holds (r : Race) (i : Nat) (w : Worker) (number : Nat) (place : Location) : Prop :=
  r.workers[i]? = some w ∧ w.stage = .done number place

theorem Tries.holds_advance (h : r.Tries i w number) {j n : Nat} {v : Worker} {l : Location}
    (holds : (r.advance i w stage).Holds j v n l) :
    (j = i ∧ v = { w with stage } ∧ stage = .done n l) ∨ (j ≠ i ∧ r.Holds j v n l) := by
  obtain ⟨here, hdone⟩ := holds
  rcases h.get?_advance.1 here with ⟨rfl, rfl⟩ | ⟨other, there⟩
  · exact .inl ⟨rfl, rfl, hdone⟩
  · exact .inr ⟨other, there, hdone⟩

variable (directory working) in
/-- Whoever has a log has it at its own place, and there it stands. -/
structure Sound (r : Race) : Prop where
  held : ∀ {i w number place}, r.Holds i w number place →
    r.files.locate working false (w.path directory number) = .ok place ∧
      r.files.get? place = some (.file .empty false)
  apart : ∀ {i j v w m n k l}, i ≠ j → r.Holds i v m k → r.Holds j w n l → k ≠ l

theorem not_holds_of_fresh (fresh : ∀ w ∈ r.workers, w.stage = .trying 1) :
    ¬ r.Holds i w number place := by
  rintro ⟨here, hdone⟩
  rw [fresh w (List.mem_of_getElem? here)] at hdone
  cases hdone

/-- Whoever gets on without a log takes none from the others. -/
theorem Sound.advance (h : r.Sound directory working) (tries : r.Tries i w number)
    (without : ∀ n l, stage ≠ .done n l) : (r.advance i w stage).Sound directory working := by
  have before : ∀ {j v n l}, (r.advance i w stage).Holds j v n l → r.Holds j v n l := by
    intro j v n l holds
    rcases tries.holds_advance holds with ⟨-, -, hdone⟩ | ⟨-, holds⟩
    · exact absurd hdone (without n l)
    · exact holds
  exact ⟨fun holds => h.held (before holds),
    fun other hv hw => h.apart other (before hv) (before hw)⟩

theorem Sound.step (h : r.Sound directory working) (hstep : Step directory working r r') :
    r'.Sound directory working := by
  have keeps := hstep.keeps
  have still : ∀ {j v n l}, r.Holds j v n l →
      r'.files.locate working false (v.path directory n) = .ok l ∧
        r'.files.get? l = some (.file .empty false) := by
    intro j v n l holds
    obtain ⟨located, standing⟩ := h.held holds
    exact ⟨keeps.locate located, keeps.entry standing⟩
  cases hstep with
  | makeDirectory => exact ⟨still, h.apart⟩
  | refused tries | fail tries => exact h.advance tries (by simp)
  | @create i w number place t tries made =>
      obtain ⟨located, free, rfl⟩ := Tree.create_eq_ok made
      have notRoot : place ≠ [] := by
        rintro rfl
        cases free
      have tries : Tries { r with files := r.files.put place (.file .empty false) } i w number :=
        tries
      -- Where the new log is made nothing stood, and every other log stands somewhere.
      have elsewhere : ∀ {j v n l}, r.Holds j v n l → l ≠ place := by
        rintro j v n l holds rfl
        obtain ⟨-, standing⟩ := h.held holds
        rw [free] at standing
        cases standing
      constructor
      · intro j v n l holds
        rcases tries.holds_advance holds with ⟨rfl, rfl, hdone⟩ | ⟨-, holds⟩
        · cases hdone
          exact ⟨keeps.locate located, (Tree.get?_put _ _ _ _ notRoot).trans (if_pos rfl)⟩
        · exact still holds
      · intro j j' v v' m n k l apart holds holds'
        rcases tries.holds_advance holds with ⟨rfl, -, hdone⟩ | ⟨-, old⟩
        · rcases tries.holds_advance holds' with ⟨rfl, -, -⟩ | ⟨-, old'⟩
          · exact absurd rfl apart
          · cases hdone
            exact (elsewhere old').symm
        · rcases tries.holds_advance holds' with ⟨rfl, -, hdone⟩ | ⟨-, old'⟩
          · cases hdone
            exact elsewhere old
          · exact h.apart apart old old'

theorem Steps.sound (h : Steps directory working start now)
    (fresh : ∀ w ∈ start.workers, w.stage = .trying 1) : now.Sound directory working := by
  induction h with
  | refl =>
      exact ⟨fun holds => absurd holds (not_holds_of_fresh fresh),
        fun _ holds => absurd holds (not_holds_of_fresh fresh)⟩
  | tail _ hstep ih => exact ih.step hstep

/-! ## What happened on the way -/

variable (directory working) in
/-- On the way from one state to another, an attempt of a worker finds at its place
    what is said to stand there, and the worker gets on to a stage. -/
def Passes (start now : Race) (i : Nat) (w : Worker) (number : Nat) (place : Location)
    (standing : Option Entry) (stage : Stage) : Prop :=
  ∃ r r', Steps directory working start r ∧ Step directory working r r' ∧
    Steps directory working r' now ∧ r.workers[i]? = some { w with stage := .trying number } ∧
    r'.workers[i]? = some { w with stage } ∧
    r.files.locate working false (w.path directory number) = .ok place ∧
    r.files.get? place = standing

theorem Passes.step (h : Passes directory working start now i w number place standing stage)
    (hstep : Step directory working now next) :
    Passes directory working start next i w number place standing stage := by
  obtain ⟨r, r', before, here, after, what⟩ := h
  exact ⟨r, r', before, here, after.tail hstep, what⟩

variable (directory working) in
/-- What is known of a worker on the way: every attempt before its last one found
    something at its place, and the one that made its log found nothing. -/
structure Known (start now : Race) (i : Nat) (w : Worker) : Prop where
  refused : ∀ {number k}, w.stage.number? = some number → 1 ≤ k → k < number →
    ∃ l e, Passes directory working start now i w k l (some e) (.trying (k + 1))
  made : ∀ {number place}, w.stage = .done number place →
    Passes directory working start now i w number place none (.done number place)

theorem Known.step (h : Known directory working start now i w)
    (hstep : Step directory working now next) : Known directory working start next i w where
  refused hnumber hk hlt := by
    obtain ⟨l, e, passes⟩ := h.refused hnumber hk hlt
    exact ⟨l, e, passes.step hstep⟩
  made hdone := (h.made hdone).step hstep

theorem Tries.current (h : r.Tries i w number) :
    r.workers[i]? = some { w with stage := .trying number } := by
  rw [h.1, ← h.2]

theorem Steps.known (h : Steps directory working start now)
    (fresh : ∀ w ∈ start.workers, w.stage = .trying 1) (hw : now.workers[i]? = some w) :
    Known directory working start now i w := by
  induction h generalizing i w with
  | refl =>
      have first := fresh w (List.mem_of_getElem? hw)
      constructor
      · intro number k hnumber hk hlt
        rw [first] at hnumber
        cases hnumber
        omega
      · intro number place hdone
        rw [first] at hdone
        cases hdone
  | @tail now next before hstep ih =>
      have unchanged : now.workers[i]? = some w → Known directory working start next i w :=
        fun hw => (ih hw).step hstep
      -- Of the worker that gets on, the attempts before are known, and the last one is this step.
      cases hstep with
      | makeDirectory => exact unchanged hw
      | @create j v n l t tries made =>
          obtain ⟨located, free, -⟩ := Tree.create_eq_ok made
          have tries' : Tries { now with files := t } j v n := tries
          rcases tries'.get?_advance.1 hw with ⟨rfl, rfl⟩ | ⟨-, hw⟩
          · have own := (ih tries.1).step (.create tries made)
            refine ⟨fun hnumber hk hlt => ?_, fun hdone => ?_⟩
            · cases hnumber
              exact own.refused (by rw [tries.2, Stage.number?]) hk hlt
            · cases hdone
              exact ⟨now, _, before, .create tries made, .refl, tries.current, hw, located, free⟩
          · exact unchanged hw
      | @refused j v n tries refused =>
          obtain ⟨l, e, located, standing⟩ := Tree.create_eq_alreadyExists refused
          rcases tries.get?_advance.1 hw with ⟨rfl, rfl⟩ | ⟨-, hw⟩
          · have own := (ih tries.1).step (.refused tries refused)
            refine ⟨fun hnumber hk hlt => ?_, fun hdone => ?_⟩
            · cases hnumber
              rcases Nat.lt_succ_iff_lt_or_eq.1 hlt with hlt | rfl
              · exact own.refused (by rw [tries.2, Stage.number?]) hk hlt
              · exact ⟨l, e, now, _, before, .refused tries refused, .refl, tries.current, hw,
                  located, standing⟩
            · cases hdone
          · exact unchanged hw
      | @fail j v n e tries =>
          rcases tries.get?_advance.1 hw with ⟨rfl, rfl⟩ | ⟨-, hw⟩
          · exact ⟨nofun, nofun⟩
          · exact unchanged hw

/-! ## The run of one worker -/

/-- The directories that one worker makes on the way are made in steps of the race. -/
theorem steps_makeWay {p : Path} {t : Tree} {result : Except Error Unit} (tries : r.Tries i w number)
    (above : p.components <+: (w.path directory number).directory.components)
    (ran : (makeDirectories working p).run.run r.files = (result, t)) :
    Steps directory working r { r with files := t } := by
  refine Relation.ReflTransGen.lift (fun t => { r with files := t }) ?_ _ _
    (steps_makeDirectories above ran)
  rintro t t' ⟨q, hq, made⟩
  have tries : Tries { r with files := t } i w number := tries
  exact .makeDirectory tries hq made

/-- A worker alone that makes a log takes steps of a race. -/
theorem steps_attemptFrom {left k : Nat} {t : Tree} (tries : r.Tries i w number)
    (ran : (attemptFrom directory w.time w.process number working left).run.run r.files =
      (.ok (place, k), t)) :
    Steps directory working r (advance { r with files := t } i w (.done k place)) := by
  induction left generalizing number r w with
  | zero => cases ran
  | succ left ih =>
      rw [attemptFrom] at ran
      rcases run_bind_cases ran with ⟨found, between, hattempt, ran⟩ | ⟨e, -, hfail⟩
      · rw [attempt] at hattempt
        rcases run_bind_cases hattempt with ⟨_, prepared, hdirs, hattempt⟩ | ⟨e, -, hfail⟩
        · have made := steps_makeWay tries (List.prefix_refl _) hdirs
          have tries : Tries { r with files := prepared } i w number := tries
          rcases run_bind_cases hattempt with ⟨_, _, hget, hattempt⟩ | ⟨e, hget, -⟩
          · cases hget
            split at hattempt
            · next created =>
                cases hattempt
                cases ran
                exact made.tail (.create tries created)
            · next refused =>
                obtain ⟨rfl, rfl⟩ : none = found ∧ prepared = between := by
                  cases hattempt
                  exact ⟨rfl, rfl⟩
                have refusal := made.tail (.refused tries refused)
                have next : Tries (advance { r with files := prepared } i w (.trying (number + 1)))
                    i { w with stage := .trying (number + 1) } (number + 1) :=
                  ⟨tries.get?_advance.2 (.inl ⟨rfl, rfl⟩), rfl⟩
                have rest := ih next ran
                rw [advance_advance] at rest
                exact refusal.trans rest
            · cases hattempt
          · cases hget
        · cases hfail
      · cases hfail

/-! ## Logs apart -/

section Twins

variable (stage stage' : Stage) (entries : List (Location × Entry))

/-- The directories of their first two attempts, and what else stands. -/
def twinTree : Tree where
  entries := [(["standalone"], .directory), (["standalone", "14"], .directory),
    (["standalone", "14", "1a"], .directory), (["standalone", "27"], .directory),
    (["standalone", "27", "12"], .directory)] ++ entries

/-- The two workers, each at its stage. -/
def twins : Race := ⟨twinTree entries, [⟨1, 2, stage⟩, ⟨1, 2, stage'⟩]⟩

/-- The place of their first log. -/
def firstPlace : Location := ["standalone", "14", "1a", "214b6700d4333.log"]

/-- The place of their second log. -/
def secondPlace : Location := ["standalone", "27", "12", "d97ccdc738d53.log"]

theorem location_twins :
    location ⟨"/"⟩ 1 2 1 = ⟨"/standalone/14/1a/214b6700d4333.log"⟩ ∧
      location ⟨"/"⟩ 1 2 2 = ⟨"/standalone/27/12/d97ccdc738d53.log"⟩ := by
  decide +kernel

theorem create_twinTree :
    (twinTree []).create [] (location ⟨"/"⟩ 1 2 1) =
        .ok (firstPlace, twinTree [(firstPlace, .file .empty false)]) ∧
      (twinTree [(firstPlace, .file .empty false)]).create [] (location ⟨"/"⟩ 1 2 1) =
        .error .alreadyExists ∧
      (twinTree [(firstPlace, .file .empty false)]).create [] (location ⟨"/"⟩ 1 2 2) =
        .ok (secondPlace,
          twinTree [(firstPlace, .file .empty false), (secondPlace, .file .empty false)]) := by
  have first : Files.steps "/standalone/14/1a/214b6700d4333.log" = firstPlace := by decide
  have second : Files.steps "/standalone/27/12/d97ccdc738d53.log" = secondPlace := by decide
  rw [location_twins.1, location_twins.2]
  refine ⟨?_, ?_, ?_⟩ <;>
    rw [Tree.create, Tree.locate_rooted (by decide) (by decide) (by decide)]
  · rw [first]
    cbv
  · rw [first]
    cbv
  · rw [second]
    cbv

theorem steps_twins :
    Steps ⟨"/"⟩ [] (twins (.trying 1) (.trying 1) [])
      (twins (.done 1 firstPlace) (.done 2 secondPlace)
        [(firstPlace, .file .empty false), (secondPlace, .file .empty false)]) := by
  obtain ⟨made, refused, again⟩ := create_twinTree
  have one : Tries (twins (.trying 1) (.trying 1) []) 0 ⟨1, 2, .trying 1⟩ 1 := ⟨rfl, rfl⟩
  have two : Tries (twins (.done 1 firstPlace) (.trying 1) [(firstPlace, .file .empty false)]) 1
      ⟨1, 2, .trying 1⟩ 1 := ⟨rfl, rfl⟩
  have three : Tries (twins (.done 1 firstPlace) (.trying 2) [(firstPlace, .file .empty false)]) 1
      ⟨1, 2, .trying 2⟩ 2 := ⟨rfl, rfl⟩
  exact ((Relation.ReflTransGen.single (.create one made)).tail (.refused two refused)).tail
    (.create three again)

end Twins

end Race

end Log

end CompileTree
