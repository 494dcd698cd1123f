import CompileTree.Generation
import CompileTree.Proofs.CommandList.Persistence
import CompileTree.Proofs.Execution
import CompileTree.Proofs.Files.Change
import CompileTree.Proofs.SystemIncludes
import Mathlib

/-! # What generating leaves behind

Until the commands are stored nothing is changed: whatever is asked for before that
lets time pass and tells lines (`Machine.Idle`). So a filter that cannot be read or a
command that cannot be quoted leaves the files as they were. Storing makes the way to
the list and writes it, and what a file then holds is read back as it was.
-/

namespace CompileTree

open Files

/-! ## Tasks that change no files -/

/-- Nothing but that time passes and something is told. -/
def Machine.Idle (m m' : Machine) : Prop := ∃ clock written, m' = { m with clock, written }

namespace Machine.Idle

variable {m m' m'' : Machine}

theorem refl (m : Machine) : m.Idle m := ⟨m.clock, m.written, rfl⟩

theorem trans (h : m.Idle m') (h' : m'.Idle m'') : m.Idle m'' := by
  obtain ⟨clock, written, rfl⟩ := h
  obtain ⟨clock', written', rfl⟩ := h'
  exact ⟨clock', written', rfl⟩

theorem files (h : m.Idle m') : m'.files = m.files := by
  obtain ⟨_, _, rfl⟩ := h
  rfl

theorem working (h : m.Idle m') : m'.working = m.working := by
  obtain ⟨_, _, rfl⟩ := h
  rfl

theorem told (m : Machine) (chunks : Written) : m.Idle { m with written := m.written ++ chunks } :=
  ⟨m.clock, _, rfl⟩

end Machine.Idle

/-- Asking a compiler for its directories changes no file, whenever that is. -/
def Compiler.LeavesFiles (compiler : Compiler) (m : Machine) : Prop :=
  ∀ m', m.Idle m' →
    ((compiler.toldDirectories : Task Failure (List Path)).run.run m').2.files = m.files

theorem Task.run_time {ε : Type} (m : Machine) :
    (Task.time : Task ε Nat).run.run m = (.ok m.clock, { m with clock := m.clock + 1 }) := rfl

theorem Task.run_valueOf {ε : Type} (name : String) (m : Machine) :
    (Task.valueOf name : Task ε (Option String)).run.run m = (.ok (m.environment.lookup name), m) := rfl

theorem Task.run_say {ε : Type} (line : String) (m : Machine) :
    (Task.say line : Task ε Unit).run.run m =
      (.ok (), { m with written := m.written ++ [(.output, (line ++ "\n").toUTF8)] }) := rfl

/-- Running a program changes the files and the clock at most. -/
theorem Task.run_capture {ε : Type} (destination : Shell.Destination) (name : String)
    (arguments : List String) (m : Machine) :
    ∃ answer files clock, (Task.capture destination name arguments : Task ε _).run.run m =
      (.ok answer, { m with files, clock }) := by
  have got : (getThe Machine : Task ε Machine).run.run m = (.ok m, m) := rfl
  rw [Task.capture, Task.run_bind_ok got]
  dsimp only
  split
  · next done _ => exact ⟨.ok done, done.files, done.clock, rfl⟩
  · next e _ => exact ⟨.error e, m.files, m.clock, rfl⟩

namespace Compiler

/-- The msvc compiler is asked for nothing but a variable. -/
theorem leavesFiles_msvc (cl : Path) (m : Machine) : (Compiler.msvc cl).LeavesFiles m := by
  intro m' idle
  rw [toldDirectories, Task.run_bind_ok (Task.run_valueOf "INCLUDE" m')]
  cases m'.environment.lookup "INCLUDE" <;> exact idle.files

section Asking

variable {compiler : Compiler} {m m' : Machine} (still : compiler.LeavesFiles m) (idle : m.Idle m')
include still idle

theorem run_toldDirectories :
    ∃ directories m'', m.Idle m'' ∧
      (compiler.toldDirectories : Task Failure (List Path)).run.run m' = (.ok directories, m'') := by
  have unchanged := still m' idle
  cases compiler with
  | clang c cxx =>
      obtain ⟨answer, files, clock, ran⟩ :=
        Task.run_capture (ε := Failure) .captured cxx.text queryArguments m'
      have run : ∃ directories, ((Compiler.clang c cxx).toldDirectories : Task Failure _).run.run m' =
          (.ok directories, { m' with files, clock }) := by
        rw [toldDirectories, Task.run_bind_ok ran]
        cases answer <;> exact ⟨_, rfl⟩
      obtain ⟨directories, run⟩ := run
      rw [run] at unchanged
      obtain ⟨clock', written, rfl⟩ := idle
      obtain rfl : files = m.files := unchanged
      exact ⟨directories, _, ⟨clock, written, rfl⟩, run⟩
  | msvc cl =>
      rw [toldDirectories, Task.run_bind_ok (Task.run_valueOf "INCLUDE" m')]
      cases m'.environment.lookup "INCLUDE" <;> exact ⟨_, m', idle, rfl⟩

theorem run_systemDirectories :
    ∃ directories m'', m.Idle m'' ∧
      (compiler.systemDirectories : Task Failure (List Path)).run.run m' = (.ok directories, m'') := by
  obtain ⟨directories, m'', idle, ran⟩ := run_toldDirectories still idle
  rw [systemDirectories, Task.run_bind_ok ran]
  cases directories <;> exact ⟨_, m'', idle, rfl⟩

end Asking

end Compiler

theorem SystemIncludes.run_directoriesOf {compiler : Compiler} {m m' : Machine}
    (still : compiler.LeavesFiles m) (idle : m.Idle m') (verbose : Bool) :
    ∃ directories m'', m.Idle m'' ∧
      (SystemIncludes.directoriesOf compiler verbose : Task Failure (List Path)).run.run m' =
        (.ok directories, m'') := by
  obtain ⟨directories, m'', idle, ran⟩ := Compiler.run_systemDirectories still idle
  rw [directoriesOf, Task.run_bind_ok ran]
  cases verbose with
  | false => exact ⟨directories, m'', idle, rfl⟩
  | true =>
      obtain ⟨told, h⟩ := Task.run_forIn_say (ε := Failure)
        (fun d : Path => "   🔎 System include dir: " ++ d.text) directories m''
      exact ⟨directories, _, idle.trans (.told m'' told), Task.run_bind_ok h⟩

namespace Generation

/-! ## Quoting -/

theorem quoteAll_cons (s : Spec) (specs : List Spec) :
    quoteAll (s :: specs) =
      match s.toCommand?, quoteAll specs with
      | none, _ => .error (.during (.quoting s.file) .unquotable)
      | some _, .error f => .error f
      | some c, .ok commands => .ok (c :: commands) := by
  rw [quoteAll, List.mapM_cons]
  cases s.toCommand? with
  | none => rfl
  | some c => cases h : quoteAll specs <;> rw [quoteAll] at h <;> rw [h] <;> rfl

/-- Either every command is quoted and is for the same file as before, or one cannot be. -/
theorem quoteAll_spec (specs : List Spec) :
    match quoteAll specs with
    | .error f => ∃ file, f.context = some (.quoting file)
    | .ok commands => commands.map (·.file) = specs.map (·.file.text) := by
  induction specs with
  | nil => rfl
  | cons s specs ih =>
      rw [quoteAll_cons]
      cases quoted : s.toCommand? with
      | none => exact ⟨s.file, rfl⟩
      | some c =>
          have own : c.file = s.file.text := by
            obtain ⟨line, -, rfl⟩ := Option.map_eq_some_iff.1 quoted
            rfl
          cases rest : quoteAll specs with
          | error f =>
              rw [rest] at ih
              exact ih
          | ok commands =>
              rw [rest] at ih
              exact congrArg₂ List.cons own ih

theorem quoteAll_eq_error {specs : List Spec} {f : Failure} (h : quoteAll specs = .error f) :
    ∃ file, f.context = some (.quoting file) := by
  have spec := quoteAll_spec specs
  rwa [h] at spec

theorem quoteAll_eq_ok {specs : List Spec} {commands : List Command} (h : quoteAll specs = .ok commands) :
    commands.map (·.file) = specs.map (·.file.text) := by
  have spec := quoteAll_spec specs
  rwa [h] at spec

/-! ## Stages -/

section Stages

variable (root : Path) (settings : Settings) (compiler : Compiler) {m m' : Machine}

theorem run_survey (filter : Filter) (followLinks : Bool) (m : Machine) :
    ∃ m', m.Idle m' ∧ (survey root filter followLinks : Task Failure Survey).run.run m =
      (.ok (Survey.ofTree m.files m.working root filter followLinks), m') := by
  obtain ⟨told, h⟩ := Task.run_forIn_say (ε := Failure)
    (fun read : Path × Error => "   ! Could not read " ++ read.1.text ++ ": " ++ read.2.message)
    (Survey.ofTree m.files m.working root filter followLinks).unread m
  rw [survey, Task.run_bind_ok (Task.run_ask _ m)]
  exact ⟨_, .told m told, Task.run_bind_ok h⟩

/-- Tell what was found. -/
def tellFound (found : Survey) (scan : Scan) : Task Failure Unit :=
  if scan.sources.paths.isEmpty then Task.say "! No source files found."
  else
    Task.say ("   🔍 Found " ++ toString scan.sources.paths.length ++ " source files, " ++
      toString found.index.size ++ " distinct file names")

/-- The resolver that the settings ask for. -/
def resolverFor : Task Failure (Option (Synthesis.Resolver (Task Failure))) :=
  if settings.systemIncludes then do
    Task.say "🔎 Scanning system directories"
    let directories ← SystemIncludes.directoriesOf compiler settings.verbose
    pure (some (SystemIncludes.resolve directories settings.verbose))
  else pure none

/-- The commands for a tree, stage by stage. -/
theorem commands_eq : commands root settings compiler = (do
    let filter ← Task.ofExcept ((Filter.ofText root settings.filters).mapError fun line =>
      .during .readingFilters (.badFilter line))
    let found ← survey root filter settings.followLinks
    let scan ← Task.ask fun t working => found.scan (t.isFile working) root
    tellFound found scan
    let resolver ← resolverFor settings compiler
    Task.ofExcept (quoteAll (← Synthesis.specs compiler found.index resolver scan))) := by
  rw [commands]
  refine bind_congr fun filter => bind_congr fun found => bind_congr fun scan => ?_
  rw [tellFound, resolverFor]
  split <;> split <;> simp only [bind_assoc, pure_bind]

/-- With or without a resolver there is a command for every source of a scan. -/
theorem run_specs_of_resolver (compiler : Compiler) (index : SuffixIndex) (scan : Scan) (verbose : Bool)
    {resolver : Option (Synthesis.Resolver (Task Failure))}
    (asks : ∀ resolve ∈ resolver, ∃ directories, resolve = SystemIncludes.resolve directories verbose)
    (m : Machine) :
    ∃ offers m', m.Idle m' ∧ (Synthesis.specs compiler index resolver scan).run.run m =
      (.ok (scan.sources.paths.map (Synthesis.specFor compiler index scan offers)), m') := by
  cases resolver with
  | none => exact ⟨[], m, .refl m, by rw [Synthesis.specs_none]; rfl⟩
  | some resolve =>
      obtain ⟨directories, rfl⟩ := asks resolve rfl
      obtain ⟨told, ran⟩ := SystemIncludes.run_resolve (ε := Failure) m directories verbose
        (Synthesis.allMissing index scan)
      refine ⟨SystemIncludes.offered m.files m.working directories (Synthesis.allMissing index scan), _,
        .told m told, ?_⟩
      rw [Synthesis.specs_some]
      exact Task.run_bind_ok ran

variable {settings compiler} in
theorem run_resolverFor (still : settings.systemIncludes = true → compiler.LeavesFiles m)
    (idle : m.Idle m') :
    ∃ resolver m'', m.Idle m'' ∧ (resolverFor settings compiler).run.run m' = (.ok resolver, m'') ∧
      ∀ resolve ∈ resolver, ∃ directories,
        resolve = SystemIncludes.resolve directories settings.verbose := by
  rw [resolverFor]
  split
  · next asked =>
      obtain ⟨directories, m'', idle, ran⟩ :=
        SystemIncludes.run_directoriesOf (still asked) (idle.trans (.told m' _)) settings.verbose
      refine ⟨_, m'', idle, (Task.run_bind_ok (Task.run_say _ m')).trans (Task.run_bind_ok ran), ?_⟩
      rintro _ ⟨⟩
      exact ⟨directories, rfl⟩
  · exact ⟨none, m', idle, rfl, nofun⟩

theorem run_tellFound (found : Survey) (scan : Scan) (m : Machine) :
    ∃ m', m.Idle m' ∧ (tellFound found scan).run.run m = (.ok (), m') := by
  rw [tellFound]
  split <;> exact ⟨_, .told m _, rfl⟩

/-- The commands for a tree are found without a change to the files. They are those for
    its sources with their words quoted, unless the filter cannot be read. -/
theorem run_commands (still : settings.systemIncludes = true → compiler.LeavesFiles m)
    (idle : m.Idle m') :
    ∃ result m'', m.Idle m'' ∧ (commands root settings compiler).run.run m' = (result, m'') ∧
      match Filter.ofText root settings.filters with
      | .error line => result = .error (.during .readingFilters (.badFilter line))
      | .ok filter =>
        let found := Survey.ofTree m.files m.working root filter settings.followLinks
        let scan := found.scan (m.files.isFile m.working) root
        ∃ offers, result =
          quoteAll (scan.sources.paths.map (Synthesis.specFor compiler found.index scan offers)) := by
  rw [commands_eq]
  cases Filter.ofText root settings.filters with
  | error line => exact ⟨_, m', idle, rfl, rfl⟩
  | ok filter =>
      obtain ⟨m₁, idle₁, surveyed⟩ := run_survey root filter settings.followLinks m'
      rw [idle.files, idle.working] at surveyed
      let found := Survey.ofTree m.files m.working root filter settings.followLinks
      let scan := found.scan (m.files.isFile m.working) root
      have asked : (Task.ask fun t working => found.scan (t.isFile working) root : Task Failure Scan).run.run
          m₁ = (.ok scan, m₁) := by
        rw [Task.run_ask, (idle.trans idle₁).files, (idle.trans idle₁).working]
      obtain ⟨m₂, idle₂, told⟩ := run_tellFound found scan m₁
      obtain ⟨resolver, m₃, idle₃, resolved, asks⟩ :=
        run_resolverFor still ((idle.trans idle₁).trans idle₂)
      obtain ⟨offers, m₄, idle₄, made⟩ :=
        run_specs_of_resolver compiler found.index scan settings.verbose asks m₃
      refine ⟨_, m₄, idle₃.trans idle₄, ?_, offers, rfl⟩
      have read : (Task.ofExcept (.ok filter) : Task Failure Filter).run.run m' = (.ok filter, m') := rfl
      refine (Task.run_bind_ok read).trans ?_
      rw [Task.run_bind_ok surveyed, Task.run_bind_ok asked, Task.run_bind_ok told,
        Task.run_bind_ok resolved, Task.run_bind_ok made]
      cases quoteAll (scan.sources.paths.map (Synthesis.specFor compiler found.index scan offers)) <;> rfl

/-- Either the filter cannot be read or a command cannot be quoted, or there is one command
    for every source, in the order of their paths. -/
theorem run_commands_cases (still : settings.systemIncludes = true → compiler.LeavesFiles m)
    (idle : m.Idle m') :
    ∃ m'', m.Idle m'' ∧
      ((∃ f, (commands root settings compiler).run.run m' = (.error f, m'') ∧
          (f.context = some .readingFilters ∨ ∃ file, f.context = some (.quoting file))) ∨
        ∃ made, (commands root settings compiler).run.run m' = (.ok made, m'') ∧
          ∃ filter, Filter.ofText root settings.filters = .ok filter ∧
            let found := Survey.ofTree m.files m.working root filter settings.followLinks
            found.sources.paths.Pairwise (compare · · = .lt) ∧
              made.map (·.file) = found.sources.paths.map (·.text)) := by
  obtain ⟨result, m'', idle, ran, found⟩ := run_commands root settings compiler still idle
  refine ⟨m'', idle, ?_⟩
  cases read : Filter.ofText root settings.filters with
  | error line =>
      rw [read] at found
      exact .inl ⟨_, found ▸ ran, .inl rfl⟩
  | ok filter =>
      rw [read] at found
      obtain ⟨offers, quoted⟩ := found
      cases result with
      | error f => exact .inl ⟨f, ran, .inr (quoteAll_eq_error quoted.symm)⟩
      | ok made =>
          refine .inr ⟨made, ran, filter, rfl, List.pairwise_map.2 (Path.Table.sorted _), ?_⟩
          rw [quoteAll_eq_ok quoted.symm, List.map_map]
          rfl

end Stages

end Generation

/-! ## Storing -/

namespace CommandList

/-- Make the directory of a path if need be. -/
def makeParent (p : Path) : Task Failure Unit :=
  match p.parent? with
  | some parent =>
    if parent.text ≠ "" then Task.within (.creating parent) (Task.change (makeDirectories · parent))
    else pure ()
  | none => pure ()

theorem store_eq (commands : List Command) (p : Path) : store commands p = (do
    makeParent p
    Task.within (.writing p) (Task.writeFile p (toText commands).toUTF8)
    Task.say ("✓ Written " ++ p.text)) := by
  rw [store, makeParent]
  cases p.parent? with
  | none => exact (pure_bind ..).symm
  | some parent => by_cases blank : parent.text = "" <;> simp [blank]

theorem mapError_eq_error {ε δ α : Type} {result : Except ε α} {g : ε → δ} {f : δ}
    (h : result.mapError g = .error f) : ∃ e, result = .error e ∧ f = g e := by
  cases result with
  | ok => cases h
  | error e =>
      cases h
      exact ⟨e, rfl, rfl⟩

variable {m m' : Machine} {p : Path} {result : Except Failure Unit}

/-- Whatever comes of it, making the directory of a path makes nothing but directories. -/
theorem run_makeParent (ran : (makeParent p).run.run m = (result, m')) :
    (∃ files, m' = { m with files }) ∧
      Tree.MakesWay m.working p.directory.components m.files m'.files ∧
      ∀ f, result = .error f → ∃ parent, p.parent? = some parent ∧ f.context = some (.creating parent) := by
  rw [makeParent] at ran
  split at ran
  · next parent hparent =>
      split at ran
      · rw [Task.run_within, Task.run_change] at ran
        obtain ⟨outcome, rfl⟩ := Prod.ext_iff.1 ran
        have above : parent.components <+: p.directory.components := by
          rw [Path.directory, hparent, Option.getD_some]
        refine ⟨⟨_, rfl⟩, Tree.makesWay_of_reflTransGen (steps_makeDirectories above rfl), ?_⟩
        rintro f rfl
        obtain ⟨e, -, rfl⟩ := mapError_eq_error outcome
        exact ⟨parent, hparent, rfl⟩
      · cases ran
        refine ⟨⟨_, rfl⟩, .refl _, ?_⟩
        rintro f ⟨⟩
  · cases ran
    refine ⟨⟨_, rfl⟩, .refl _, ?_⟩
    rintro f ⟨⟩

/-- Bytes that are written may go to an output instead of a file; nothing is changed if
    they cannot be written. -/
theorem run_writeFile (bytes : ByteArray) (m : Machine) :
    match m.files.write m.working p bytes with
    | .ok files => ∃ written,
        (Task.writeFile p bytes).run.run m = (.ok (), { m with files, written })
    | .error e => (Task.writeFile p bytes).run.run m = (.error e, m) := by
  have changed := Task.run_change (fun working => Files.change (·.write working p bytes)) m
  rw [Files.run_change] at changed
  cases wrote : m.files.write m.working p bytes with
  | error e =>
      rw [wrote] at changed
      exact Task.run_bind_error changed
  | ok files =>
      rw [wrote] at changed
      rw [Task.writeFile, Task.run_bind_ok changed, Task.run_bind_ok (Task.run_ask _ _)]
      dsimp only
      split
      · next s _ => exact ⟨m.written ++ [(s, bytes)], rfl⟩
      · exact ⟨m.written, rfl⟩

/-- Storing makes the way to the list and writes it, and if it fails it has made
    nothing but directories. -/
theorem run_store (commands : List Command) (p : Path) (m : Machine) :
    match (store commands p).run.run m with
    | (.error f, m') =>
      ((∃ parent, p.parent? = some parent ∧ f.context = some (.creating parent)) ∨
          f.context = some (.writing p)) ∧
        Tree.MakesWay m.working p.directory.components m.files m'.files
    | (.ok _, m') =>
      m'.working = m.working ∧
        (Tree.Stores m.working p (toText commands).toUTF8 m.files m'.files ∨
          (∃ l d, m'.files.entry m.working true p = .ok (l, .device d)) ∧
            Tree.MakesWay m.working p.directory.components m.files m'.files) := by
  rw [store_eq]
  cases made : (makeParent p).run.run m with
  | mk result m₁ =>
      obtain ⟨⟨files, rfl⟩, way, creating⟩ := run_makeParent made
      cases result with
      | error f =>
          rw [Task.run_bind_error made]
          exact ⟨.inl (creating f rfl), way⟩
      | ok _ =>
          rw [Task.run_bind_ok made]
          have wrote := run_writeFile (p := p) (toText commands).toUTF8 { m with files }
          have within := Task.run_within (.writing p) (Task.writeFile p (toText commands).toUTF8)
            { m with files }
          cases written : files.write m.working p (toText commands).toUTF8 with
          | error e =>
              rw [written] at wrote
              rw [wrote] at within
              rw [Task.run_bind_error within]
              exact ⟨.inr rfl, way⟩
          | ok files' =>
              rw [written] at wrote
              obtain ⟨told, wrote⟩ := wrote
              rw [wrote] at within
              rw [Task.run_bind_ok within, Task.run_say]
              exact ⟨rfl, way.write written⟩

/-- In a directory that is there a list is stored as it is written. -/
theorem run_store_of_write {commands : List Command} {parent : Path} {files : Tree}
    (hparent : p.parent? = some parent) (nonblank : parent.text ≠ "")
    (standing : m.files.makeDirectory m.working parent = .error .alreadyExists)
    (there : m.files.isDirectory m.working parent = true)
    (wrote : m.files.write m.working p (toText commands).toUTF8 = .ok files) :
    ∃ written, (store commands p).run.run m = (.ok (), { m with files, written }) := by
  have made : (makeParent p).run.run m = (.ok (), m) := by
    rw [makeParent, hparent]
    simp only [if_pos nonblank]
    rw [Task.run_within, Task.run_change, run_makeDirectories_of_isDirectory nonblank standing there]
    rfl
  have written := run_writeFile (p := p) (toText commands).toUTF8 m
  rw [wrote] at written
  obtain ⟨told, written⟩ := written
  have within := Task.run_within (.writing p) (Task.writeFile p (toText commands).toUTF8) m
  rw [written] at within
  exact ⟨_, by rw [store_eq, Task.run_bind_ok made, Task.run_bind_ok within]; rfl⟩

/-- What a file holds that a list was written to is loaded as that list. -/
theorem run_load_of_stores {commands : List Command} {before : Tree}
    (stored : Tree.Stores m.working p (toText commands).toUTF8 before m.files) :
    (load p).run.run m = (.ok commands, m) := by
  obtain ⟨l, executable, leads, -⟩ := stored
  have text : m.files.readText m.working p = .ok (toText commands) := by
    have decoded : String.fromUTF8? (toText commands).toUTF8 = some (toText commands) :=
      dif_pos (toText commands).isValidUTF8
    have read : m.files.read m.working p = .ok (toText commands).toUTF8 := by
      rw [Tree.read, leads]
      rfl
    rw [Tree.readText, read]
    simp only [bind, Except.bind, decoded]
    rfl
  rw [Execution.run_load, text]
  simp only [ofText?_toText.1 commands]

end CommandList

namespace Generation

/-! ## Generating -/

section Generating

variable {root list : Path} {settings : Settings} {compiler : Compiler} {m m' m'' : Machine}
  {made : List Command}

/-- A machine on which generating has begun. -/
def begun (m : Machine) : Machine :=
  { m with
    clock := m.clock + 1
    written := m.written ++ [(.output, ("⚙ Generating compilation commands..." ++ "\n").toUTF8)] }

theorem idle_begun (m : Machine) : m.Idle (begun m) := ⟨_, _, rfl⟩

theorem generate_of_error {f : Failure}
    (ran : (commands root settings compiler).run.run (begun m) = (.error f, m')) :
    (generate root settings compiler list).run.run m = (.error f, m') := by
  rw [generate, Task.run_bind_ok (Task.run_time m), Task.run_bind_ok (Task.run_say _ _)]
  exact Task.run_bind_error ran

/-- Once there are commands it is up to storing them whether generating succeeds. -/
theorem generate_of_ok {outcome : Except Failure Unit}
    (ran : (commands root settings compiler).run.run (begun m) = (.ok made, m'))
    (stored : (CommandList.store made list).run.run m' = (outcome, m'')) :
    ∃ after, m''.Idle after ∧
      (generate root settings compiler list).run.run m = (outcome.map fun _ => made, after) := by
  rw [generate, Task.run_bind_ok (Task.run_time m), Task.run_bind_ok (Task.run_say _ _)]
  cases outcome with
  | error f => exact ⟨m'', .refl m'', (Task.run_bind_ok ran).trans (Task.run_bind_error stored)⟩
  | ok _ =>
      refine ⟨_, ?_, (Task.run_bind_ok ran).trans ((Task.run_bind_ok stored).trans
        ((Task.run_bind_ok (Task.run_time m'')).trans (Task.run_bind_ok (Task.run_say _ _))))⟩
      exact ⟨_, _, rfl⟩

end Generating

/-! A tree with one source. -/

section Small

/-- A source, and a device elsewhere. -/
def smallTree : Tree :=
  (((Tree.empty.put ["p"] .directory).put ["p", "a.c"] (.file .empty false)).put ["dev"] .directory).put
    ["dev", "null"] (.device .nothing)

/-- A machine with the tree. -/
def smallMachine : Machine := ⟨smallTree, [], [], 0, 0, 0, []⟩

/-- What is in force where nothing is asked for. -/
def usualSettings : Settings := ⟨"", false, none, 1, false, true, none, none⟩

theorem entry_smallTree (b : Bool) :
    smallTree.entry [] b ⟨"/p"⟩ = .ok (["p"], .directory) ∧
      smallTree.entry [] b ⟨"/dev"⟩ = .ok (["dev"], .directory) ∧
      smallTree.entry [] b ⟨"/dev/null"⟩ = .ok (["dev", "null"], .device .nothing) ∧
      smallTree.entry [] b ⟨"/p/a.c"⟩ = .ok (["p", "a.c"], .file .empty false) := by
  have root : Files.steps "/p" = ["p"] := by decide
  have devices : Files.steps "/dev" = ["dev"] := by decide
  have device : Files.steps "/dev/null" = ["dev", "null"] := by decide
  have source : Files.steps "/p/a.c" = ["p", "a.c"] := by decide
  refine ⟨?_, ?_, ?_, ?_⟩ <;>
    rw [Tree.entry, Tree.locate_rooted (by decide) (by decide) (by decide)]
  · rw [root]
    cases b <;> cbv
  · rw [devices]
    cases b <;> cbv
  · rw [device]
    cases b <;> cbv
  · rw [source]
    cases b <;> cbv

theorem files_smallTree : smallTree.files [] ⟨"/p"⟩ false = [⟨"/p/a.c"⟩] := by
  have walked : smallTree.files [] ⟨"/p"⟩ false = smallTree.filesWithin [] ⟨"/p"⟩ false 36 := rfl
  rw [walked, Tree.filesWithin, (entry_smallTree false).1, (entry_smallTree true).1]
  simp only
  rw [Tree.filesBelow_of_directory (entry_smallTree true).1]
  rfl

theorem survey_smallTree :
    Survey.ofTree smallTree [] ⟨"/p"⟩ (Filter.everything ⟨"/p"⟩) false =
      Survey.ofFiles ⟨"/p"⟩ [⟨"/p/a.c"⟩] fun _ => .ok .empty := by
  have included : [⟨"/p/a.c"⟩].filter (Filter.everything ⟨"/p"⟩).includes = [⟨"/p/a.c"⟩] := by
    decide
  have scanned : ([⟨"/p/a.c"⟩] : List Path).filter (fun p => p.isSource || p.isHeader) = [⟨"/p/a.c"⟩] := by
    decide
  have read : smallTree.read [] ⟨"/p/a.c"⟩ = .ok .empty := by
    rw [Tree.read, (entry_smallTree true).2.2.2]
    rfl
  rw [Survey.ofTree, files_smallTree, included, Survey.ofFiles, Survey.ofFiles, scanned,
    List.foldl_cons, List.foldl_cons, read]
  rfl

/-- There is a command for the source. -/
theorem run_commands_smallMachine :
    ∃ made m', smallMachine.Idle m' ∧ made.map (·.file) = ["/p/a.c"] ∧
      (commands ⟨"/p"⟩ usualSettings (.msvc ⟨"cl"⟩)).run.run (begun smallMachine) = (.ok made, m') := by
  obtain ⟨result, m', idle, ran, found⟩ := run_commands ⟨"/p"⟩ usualSettings (.msvc ⟨"cl"⟩)
    (fun _ => Compiler.leavesFiles_msvc ⟨"cl"⟩ smallMachine) (idle_begun smallMachine)
  have all : Filter.ofText ⟨"/p"⟩ usualSettings.filters = .ok (Filter.everything ⟨"/p"⟩) :=
    Filter.ofText_empty ⟨"/p"⟩
  rw [all] at found
  obtain ⟨offers, quoted⟩ := found
  have surveyed : Survey.ofTree smallMachine.files smallMachine.working ⟨"/p"⟩ (Filter.everything ⟨"/p"⟩)
      usualSettings.followLinks = _ := survey_smallTree
  let found := Survey.ofFiles ⟨"/p"⟩ [⟨"/p/a.c"⟩] fun _ => .ok .empty
  let scan := found.scan (smallTree.isFile []) ⟨"/p"⟩
  have sources : scan.sources.paths = [⟨"/p/a.c"⟩] := by decide
  have own : Synthesis.specFor (.msvc ⟨"cl"⟩) found.index scan offers ⟨"/p/a.c"⟩ =
      Synthesis.spec (.msvc ⟨"cl"⟩) ⟨"/p"⟩ ⟨"/p/a.c"⟩ [] := by
    have nothing : scan.unresolvedFor ⟨"/p/a.c"⟩ = [] := by
      have listed : ⟨"/p/a.c"⟩ ∈ found.sources.paths := by decide
      have silent : Include.directivesOf found.directives.entries ⟨"/p/a.c"⟩ = [] := by decide
      rw [Survey.scan_unresolvedFor found _ _ listed]
      exact Include.unresolved_eq_nil silent
    rw [Synthesis.specFor, nothing]
    rfl
  have quotable : (quoteAll [Synthesis.spec (.msvc ⟨"cl"⟩) ⟨"/p"⟩ ⟨"/p/a.c"⟩ []]).isOk = true := by
    decide
  rw [surveyed] at quoted
  change result = quoteAll (scan.sources.paths.map (Synthesis.specFor (.msvc ⟨"cl"⟩) found.index scan offers))
    at quoted
  rw [sources, List.map_singleton, own] at quoted
  cases result with
  | error f =>
      rw [← quoted] at quotable
      cases quotable
  | ok made => exact ⟨made, m', idle, quoteAll_eq_ok quoted.symm, ran⟩

/-- Where a list can be written in a directory of the tree, generating succeeds. -/
theorem generate_smallMachine (list parent : Path) {place : Location} {files : List Command → Tree}
    (hparent : list.parent? = some parent) (nonblank : parent.text ≠ "")
    (closed : Tree.endsOpen parent = false)
    (leads : ∀ b, smallTree.entry [] b parent = .ok (place, .directory))
    (wrote : ∀ made, smallTree.write [] list (CommandList.toText made).toUTF8 = .ok (files made)) :
    ∃ made after, made.map (·.file) = ["/p/a.c"] ∧ after.files = files made ∧ after.working = [] ∧
      (generate ⟨"/p"⟩ usualSettings (.msvc ⟨"cl"⟩) list).run.run smallMachine = (.ok made, after) := by
  obtain ⟨made, m', ⟨clock, written, rfl⟩, sources, ran⟩ := run_commands_smallMachine
  have there : smallTree.isDirectory [] parent = true := by
    rw [Tree.isDirectory, leads true]
  obtain ⟨told, stored⟩ := CommandList.run_store_of_write
    (m := { smallMachine with clock, written }) hparent nonblank
    (Tree.makeDirectory_of_entry closed (leads false)) there (wrote made)
  obtain ⟨after, idle, generated⟩ := generate_of_ok ran stored
  exact ⟨made, after, sources, idle.files, idle.working, generated⟩

end Small

end Generation

end CompileTree
