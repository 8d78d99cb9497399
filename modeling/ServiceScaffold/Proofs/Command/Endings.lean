/-
How the program ends.

The program looks before it writes.  All that can be wrong with a command line, with a service that
is asked for or with a config document is found out by questions to the world, which change nothing;
so each of the exit codes 2, 3 and 4 says that nothing was changed.  Only a run that was carried out
ends in 0 or 1, by whether every service got its files.

* `World` — a state that can be asked without being changed; `Disk.world`.
* `Program.Performed.exitCode` — the exit code of a command; `Program.exitCode_finish`.
* `World.resolve_cases` — what a `generate` command is settled from.
* `Program.run_cases`, `Program.exitCode_perform` — what a run that is carried out ends in.
* `Program.run_endings` — every command line.
-/
import ServiceScaffold.Command.Program
import ServiceScaffold.Proofs.Command.Resolution
import ServiceScaffold.Proofs.Generation.Trace
import ServiceScaffold.Proofs.Service.Specification

namespace ServiceScaffold

/-! ### Worlds -/

/-- A state that can be asked without being changed, and that directories and files are made in. -/
structure World (σ : Type) where
  /-- The directory that relative paths start from. -/
  workingDirectory : Path
  readBytes : σ → Path → Except IoFailure ByteArray
  isFile : σ → Path → Bool
  isDirectory : σ → Path → Bool
  pathExists : σ → Path → Bool
  makeDirectory : Path → StateM σ (Except IoFailure Unit)
  writeBytes : Path → ByteArray → StateM σ (Except IoFailure Unit)

/-- A world as a host. -/
def World.host {σ : Type} (world : World σ) : Host (StateM σ) where
  workingDirectory := world.workingDirectory
  makeDirectory := world.makeDirectory
  writeBytes := world.writeBytes
  readBytes p := return world.readBytes (← get) p
  isFile p := return world.isFile (← get) p
  isDirectory p := return world.isDirectory (← get) p
  pathExists p := return world.pathExists (← get) p

/-- The world of a disk. -/
def Disk.world (workingDirectory : Path) (location : Location) : World Disk where
  workingDirectory := workingDirectory
  readBytes disk := disk.readBytes location
  isFile disk := disk.isFile location
  isDirectory disk := disk.isDirectory location
  pathExists disk := disk.contains location
  makeDirectory := (Disk.host workingDirectory location).makeDirectory
  writeBytes := (Disk.host workingDirectory location).writeBytes

theorem Disk.host_world (workingDirectory : Path) (location : Location) :
    (Disk.world workingDirectory location).host = Disk.host workingDirectory location :=
  rfl

/-! ### Errors -/

theorem Service.refusal?_eq_some_iff {spec : String} {e : Error} :
    refusal? spec = some e ↔ ofSpec spec = .error e := by
  rw [refusal?]
  cases ofSpec spec <;> simp

theorem Service.exitCode_ofSpec {spec : String} {e : Error} (h : ofSpec spec = .error e) :
    (CommandError.core e).exitCode = 2 := by
  cases ofSpec_eq_iff.mp h with
  | blank => rfl
  | noName => rfl
  | noInterface => rfl
  | tooMany => rfl

/-- A text that is no config document is an unusable one. -/
theorem ConfigDocument.exitCode_parse {origin : Path} {text : String} {e : ConfigError}
    (h : parse origin text = .error e) : (CommandError.config e).exitCode = 4 := by
  rw [parse] at h
  cases hvalue : Json.parse? text with
  | none =>
    rw [hvalue] at h
    rw [← Except.error.inj h]
    rfl
  | some value =>
    rw [hvalue] at h
    have hreads := reads_ofJson origin value
    have hvalid : ofJson origin value = .error e := h
    rw [hvalid] at hreads
    cases hreads with
    | @error r _ _ => cases r <;> rfl

/-- Some service on the command line cannot be read. -/
def GenerateOptions.HasBadService (options : GenerateOptions) : Prop :=
  ∃ spec ∈ options.services, ∃ e, Service.ofSpec spec = .error e

namespace World

variable {σ : Type} (world : World σ)

/-! ### Settling a command -/

/-- The config file of a command: the one that is asked for, or the conventional one. -/
def configFile? (asked : Option Path) (s : σ) : Option Path :=
  match asked with
  | some path => some (world.workingDirectory.join path)
  | none => (configFileNames.map world.workingDirectory.child).find? (world.isFile s)

theorem configFileOf_run (asked : Option Path) (s : σ) :
    configFileOf world.host.configSource asked world.workingDirectory s =
      (world.configFile? asked s, s) := by
  cases asked with
  | some path => rfl
  | none => exact ConfigSource.firstFile?_run world.isFile world.readBytes s _

/-- A file cannot be read because it is not there. -/
def FileMissing (file : Path) (s : σ) : Prop :=
  ∃ failure, world.readBytes s file = .error failure ∧ failure.kind = .notFound

/-- The config file of a command cannot be read because it is not there. -/
def ConfigMissing (asked : Option Path) (s : σ) : Prop :=
  ∃ file, world.configFile? asked s = some file ∧ world.FileMissing file s

/-- A document that cannot be loaded is one whose file is not there, or an unusable one. -/
theorem load_cases (file : Path) (s : σ) :
    (∃ e, world.host.configSource.load file s = (.error e, s) ∧
      (world.FileMissing file s → (CommandError.config e).exitCode = 3) ∧
      (¬ world.FileMissing file s → (CommandError.config e).exitCode = 4)) ∨
    ∃ document, world.host.configSource.load file s = (.ok document, s) := by
  have hload : world.host.configSource.load file s = _ :=
    ConfigSource.load_run world.isFile world.readBytes s file
  rw [hload]
  cases hbytes : world.readBytes s file with
  | error failure =>
    refine .inl ⟨.read file failure, rfl, ?_, ?_⟩
    · rintro ⟨failure', hread, hkind⟩
      obtain rfl := Except.error.inj (hbytes.symm.trans hread)
      rw [CommandError.exitCode, CommandError.category, if_pos hkind]
      rfl
    · intro hnot
      have hkind : failure.kind ≠ .notFound := fun hkind => hnot ⟨failure, hbytes, hkind⟩
      rw [CommandError.exitCode, CommandError.category, if_neg hkind]
      rfl
  | ok bytes =>
    have hthere : ¬ world.FileMissing file s := by
      rintro ⟨failure, hread, -⟩
      rw [hbytes] at hread
      exact absurd hread (by simp)
    rw [Except.bind, decodeText]
    cases String.fromUTF8? bytes with
    | none => exact .inl ⟨.read file .notText, rfl, fun h => absurd h hthere, fun _ => rfl⟩
    | some text =>
      rw [Except.mapError, Except.bind]
      cases hparse : ConfigDocument.parse file text with
      | error e =>
        have hcode := ConfigDocument.exitCode_parse hparse
        exact .inl ⟨e, rfl, fun h => absurd h hthere, fun _ => hcode⟩
      | ok document => exact .inr ⟨document, rfl⟩

/-- What the exit code tells of a `generate` command that cannot be settled. -/
structure TellsRefusal (options : GenerateOptions) (asked : Option Path) (s : σ)
    (exitCode : Nat) : Prop where
  badService : options.HasBadService → exitCode = 2
  missingConfig : ¬ options.HasBadService → world.ConfigMissing asked s → exitCode = 3
  badConfig : ¬ options.HasBadService → ¬ world.ConfigMissing asked s → exitCode = 4

/-- A command is settled without a change. -/
theorem resolve_cases (options : GenerateOptions) (asked : Option Path) (s : σ) :
    (∃ e, resolve world.host.configSource options asked world.workingDirectory s = (.error e, s) ∧
      world.TellsRefusal options asked s e.exitCode) ∨
    ∃ resolved,
      resolve world.host.configSource options asked world.workingDirectory s =
        (.ok resolved, s) := by
  rcases Service.ofSpecs_cases options.services with
    ⟨e, hrefused, hspecs⟩ | ⟨services, haccepted, -, hspecs⟩
  · obtain ⟨spec, hspec, hrefused⟩ := List.exists_of_findSome?_eq_some hrefused
    have hofSpec : Service.ofSpec spec = .error e := Service.refusal?_eq_some_iff.mp hrefused
    have hbad : options.HasBadService := ⟨spec, hspec, e, hofSpec⟩
    have hresolve : resolve world.host.configSource options asked world.workingDirectory s =
        (.error (.core e), s) := by
      rw [resolve, hspecs]
      rfl
    exact .inl ⟨.core e, hresolve, fun _ => Service.exitCode_ofSpec hofSpec,
      fun hgood => absurd hbad hgood, fun hgood => absurd hbad hgood⟩
  · have hgood : ¬ options.HasBadService := by
      rintro ⟨spec, hspec, e, hofSpec⟩
      have hnone := List.findSome?_eq_none_iff.mp haccepted spec hspec
      rw [Service.refusal?_eq_some_iff.mpr hofSpec] at hnone
      exact absurd hnone (by simp)
    rw [resolve, hspecs]
    dsimp only
    rw [Filesystem.bind_apply (world.configFileOf_run asked s)]
    cases hfile : world.configFile? asked s with
    | none => exact .inr ⟨_, rfl⟩
    | some file =>
      dsimp only
      rcases world.load_cases file s with ⟨e, hload, hmissing, hbad⟩ | ⟨document, hload⟩
      · rw [Filesystem.bind_apply hload]
        refine .inl ⟨.config e, rfl, fun h => absurd h hgood, fun _ h => ?_, fun _ h => ?_⟩
        · obtain ⟨file', hfile', hthere⟩ := h
          obtain rfl := Option.some.inj (hfile.symm.trans hfile')
          exact hmissing hthere
        · exact hbad fun hthere => h ⟨file, hfile, hthere⟩
      · rw [Filesystem.bind_apply hload]
        exact .inr ⟨_, rfl⟩

end World

namespace Program

/-! ### Exit codes -/

/-- The exit code of a command. -/
def Performed.exitCode (performed : Performed) : Nat :=
  match performed.result with
  | .ok () => 0
  | .error e => e.exitCode

theorem exitCode_finish (start : Start) (globals : GlobalOptions) (performed : Performed) :
    (finish start globals performed).exitCode = performed.exitCode := by
  rw [finish, Performed.exitCode]
  cases performed.result <;> rfl

section World

variable {σ : Type} (world : World σ) (schedule : Schedule)

/-! ### Runs -/

/-- The output directory of a run cannot be created. -/
def OutputRefused (config : RunConfig) (s : σ) : Prop :=
  ∃ failure, (world.host.createDirectories config.output s).1 = .error failure

/-- What the exit code tells of a run that is carried out. -/
structure TellsRun (config : RunConfig) (s : σ) (exitCode : Nat) : Prop where
  complete : exitCode = 0 ↔
    ∃ report, (Generation.run world.host.filesystem schedule config s).1.result = .ok report ∧
      report.isComplete = true
  incomplete : exitCode = 1 ↔ OutputRefused world config s ∨
    ∃ report, (Generation.run world.host.filesystem schedule config s).1.result = .ok report ∧
      report.failures ≠ []

theorem createDirectories_fst (p : Path) (s : σ) :
    (world.host.filesystem.createDirectories p s).1 =
      (world.host.createDirectories p s).1.mapError (.directoryRefused p) := by
  cases hcreated : world.host.createDirectories p s with
  | mk answer s' =>
    have hrun : world.host.filesystem.createDirectories p s = _ := Filesystem.bind_apply hcreated
    rw [hrun]
    cases answer <;> rfl

/-- A run cannot start, or ends in a report. -/
theorem run_cases (config : RunConfig) (s : σ) :
    let result := (Generation.run world.host.filesystem schedule config s).1.result
    (OutputRefused world config s ∧
      ∃ failure, result = .error (.directoryRefused config.output failure)) ∨
    ¬ OutputRefused world config s ∧ ∃ report, result = .ok report := by
  intro result
  have hroot := createDirectories_fst world config.output s
  cases hcreated : (world.host.createDirectories config.output s).1 with
  | error failure =>
    rw [hcreated] at hroot
    obtain ⟨s', hrun⟩ := Generation.run_refused world.host.filesystem schedule config s
      (e := .directoryRefused config.output failure) hroot
    have hplain := hrun.plain
    exact .inl ⟨⟨failure, hcreated⟩, failure, by simp only [result, hplain]⟩
  | ok =>
    rw [hcreated] at hroot
    obtain ⟨courses, late, outcome, s', -, -, hresult, hrun⟩ :=
      Generation.run_traced world.host.filesystem schedule config s hroot
    have hplain := hrun.plain
    refine .inr ⟨?_, Generation.report config courses, by simp only [result, hplain, hresult]⟩
    rintro ⟨failure, hrefused⟩
    rw [hcreated] at hrefused
    exact absurd hrefused (by simp)

/-- The result of a run decides the exit code of the command. -/
theorem exitCode_perform (config : RunConfig) (s : σ) :
    (perform world.host schedule config s).1.exitCode =
      match (Generation.run world.host.filesystem schedule config s).1.result with
      | .error e => (CommandError.core e).exitCode
      | .ok report => if report.isComplete then 0 else 1 := by
  cases hrun : Generation.run world.host.filesystem schedule config s with
  | mk outcome s' =>
    have hperform : perform world.host schedule config s = _ := Filesystem.bind_apply hrun
    rw [hperform]
    cases hresult : outcome.result with
    | error e => rfl
    | ok report =>
      dsimp only
      by_cases hcomplete : report.isComplete = true
      · rw [Report.result, if_pos hcomplete, if_pos hcomplete]
        rfl
      · rw [Report.result, if_neg hcomplete, if_neg hcomplete]
        rfl

theorem exitCode_perform_lt (config : RunConfig) (s : σ) :
    (perform world.host schedule config s).1.exitCode < 2 := by
  rw [exitCode_perform]
  rcases run_cases world schedule config s with ⟨-, failure, hresult⟩ | ⟨-, report, hresult⟩
  · rw [hresult]
    exact Nat.one_lt_two
  · rw [hresult]
    dsimp only
    split
    · exact Nat.two_pos
    · exact Nat.one_lt_two

/-- The exit code of a run that is carried out tells how it went. -/
theorem tellsRun_perform (config : RunConfig) (s : σ) :
    TellsRun world schedule config s (perform world.host schedule config s).1.exitCode := by
  have hcode := exitCode_perform world schedule config s
  rcases run_cases world schedule config s with
    ⟨hrefused, failure, hresult⟩ | ⟨hcreated, report, hresult⟩
  · rw [hresult] at hcode
    have hone : (perform world.host schedule config s).1.exitCode = 1 := hcode
    rw [hone]
    refine ⟨⟨fun h => absurd h (by decide), ?_⟩, ⟨fun _ => .inl hrefused, fun _ => rfl⟩⟩
    rintro ⟨report, hreport, -⟩
    exact absurd (hresult.symm.trans hreport) (by simp)
  · rw [hresult] at hcode
    rw [hcode]
    -- the one report there is
    have honly {report' : Report}
        (h : (Generation.run world.host.filesystem schedule config s).1.result = .ok report') :
        report' = report := Except.ok.inj (h.symm.trans hresult)
    dsimp only
    by_cases hcomplete : report.isComplete = true
    · rw [if_pos hcomplete]
      refine ⟨⟨fun _ => ⟨report, hresult, hcomplete⟩, fun _ => rfl⟩, ?_, ?_⟩
      · exact fun h => absurd h (by decide)
      · rintro (hrefused | ⟨report', hreport, hfailures⟩)
        · exact absurd hrefused hcreated
        · rw [honly hreport] at hfailures
          exact absurd (List.isEmpty_iff.mp hcomplete) hfailures
    · rw [if_neg hcomplete]
      refine ⟨⟨fun h => absurd h (by decide), ?_⟩,
        fun _ => .inr ⟨report, hresult, ?_⟩, fun _ => rfl⟩
      · rintro ⟨report', hreport, hcomplete'⟩
        rw [honly hreport] at hcomplete'
        exact absurd hcomplete' hcomplete
      · exact fun hfailures => hcomplete (List.isEmpty_iff.mpr hfailures)

/-! ### Commands -/

section Generate

variable {globals : GlobalOptions} {options : GenerateOptions} {resolved : ResolvedRun} {s : σ}

theorem generate_of_error {e : CommandError}
    (h : resolve world.host.configSource options globals.config world.workingDirectory s =
      (.error e, s)) :
    generate world.host schedule globals options s = (⟨[], .error e⟩, s) :=
  Filesystem.bind_apply h

/-- A settled command that has nothing to write, or is only to show what it would write. -/
theorem generate_idle
    (h : resolve world.host.configSource options globals.config world.workingDirectory s =
      (.ok resolved, s))
    (hidle : resolved.config.services = [] ∨ options.dryRun = true) :
    ∃ performed, generate world.host schedule globals options s = (performed, s) ∧
      performed.exitCode = 0 := by
  have hgenerate : generate world.host schedule globals options s = _ := Filesystem.bind_apply h
  rw [hgenerate]
  dsimp only
  by_cases hnone : resolved.config.services.isEmpty = true
  · rw [if_pos hnone]
    exact ⟨_, rfl, rfl⟩
  · have hdry : options.dryRun = true :=
      hidle.resolve_left fun hnil => hnone (List.isEmpty_iff.mpr hnil)
    rw [if_neg hnone, if_pos hdry, showPlan, resolved.config.plan_eq]
    exact ⟨_, rfl, rfl⟩

/-- Any other settled command is a run. -/
theorem generate_busy
    (h : resolve world.host.configSource options globals.config world.workingDirectory s =
      (.ok resolved, s))
    (hbusy : ¬ (resolved.config.services = [] ∨ options.dryRun = true)) :
    (generate world.host schedule globals options s).1.exitCode =
      (perform world.host schedule resolved.config s).1.exitCode := by
  have hgenerate : generate world.host schedule globals options s = _ := Filesystem.bind_apply h
  have hsome : ¬ resolved.config.services.isEmpty = true := fun hempty =>
    hbusy (.inl (List.isEmpty_iff.mp hempty))
  have hwrite : ¬ options.dryRun = true := fun hdry => hbusy (.inr hdry)
  rw [hgenerate]
  dsimp only
  rw [if_neg hsome, if_neg hwrite]
  rfl

/-- An exit code above 1 says that the command changed nothing: no run ends in one. -/
theorem generate_snd (h : 1 < (generate world.host schedule globals options s).1.exitCode) :
    (generate world.host schedule globals options s).2 = s := by
  rcases world.resolve_cases options globals.config s with ⟨e, hresolve, -⟩ | ⟨resolved, hresolve⟩
  · rw [generate_of_error world schedule hresolve]
  · by_cases hidle : resolved.config.services = [] ∨ options.dryRun = true
    · obtain ⟨performed, hgenerate, -⟩ := generate_idle world schedule hresolve hidle
      rw [hgenerate]
    · rw [generate_busy world schedule hresolve hidle] at h
      exact absurd (exitCode_perform_lt world schedule resolved.config s) (Nat.not_lt.mpr h)

end Generate

/-- A new config document is not written over another one. -/
theorem create_existing {s : σ}
    (h : world.pathExists s (world.workingDirectory.child starterFileName) = true) :
    create world.host false s =
      (⟨[], .error (.configExists (world.workingDirectory.child starterFileName))⟩, s) := by
  have hexists : world.host.pathExists (world.workingDirectory.child starterFileName) s =
      (true, s) := congrArg (·, s) h
  exact Filesystem.bind_apply hexists

/-- An `init` command changes nothing, or it is the system that decides its exit code. -/
theorem create_cases (force : Bool) (s : σ) :
    (create world.host force s).2 = s ∨ (create world.host force s).1.exitCode < 2 := by
  have hasked (file : Path) : world.host.pathExists file s = (world.pathExists s file, s) := rfl
  have hcreate : create world.host force s = _ := Filesystem.bind_apply (hasked _)
  rw [hcreate]
  split
  · exact .inl rfl
  · right
    cases hwritten : world.host.writeBytes (world.host.workingDirectory.child starterFileName)
        (ConfigDocument.starter.text ++ "\n").toUTF8 s with
    | mk answer s' =>
      rw [Filesystem.bind_apply hwritten]
      cases answer with
      | error failure => exact Nat.one_lt_two
      | ok => exact Nat.two_pos

theorem loadEnvironment_snd (environment : Environment) (s : σ) :
    (loadEnvironment world.host environment s).2 = s := by
  have hfind := ConfigSource.firstFile?_run world.isFile world.readBytes s
    (world.workingDirectory.ancestors.map (·.child environmentFileName))
  have hload : loadEnvironment world.host environment s = _ := Filesystem.bind_apply hfind
  rw [hload]
  cases (world.workingDirectory.ancestors.map (·.child environmentFileName)).find?
    (world.isFile s) with
  | none => rfl
  | some file =>
    have hread : world.host.readBytes file s = (world.readBytes s file, s) := rfl
    dsimp only
    rw [Filesystem.bind_apply hread]
    cases world.readBytes s file <;> rfl

/-! ### The program -/

section Run

variable {start : Start} {s : σ}

theorem run_of_parse {environment : Environment}
    (h : loadEnvironment world.host start.environment s = (.ok environment, s)) :
    run world.host schedule start s =
      match Invocation.parse environment start.words with
      | .error e => (refuse start environment e, s)
      | .ok ⟨_, .completions shell⟩ => (.script shell, s)
      | .ok ⟨globals, .generate options⟩ =>
        (finish start globals (generate world.host schedule globals options s).1,
          (generate world.host schedule globals options s).2)
      | .ok ⟨globals, .init force⟩ =>
        (finish start globals (create world.host force s).1, (create world.host force s).2) := by
  have hrun : run world.host schedule start s = _ := Filesystem.bind_apply h
  rw [hrun]
  dsimp only
  cases Invocation.parse environment start.words with
  | error e => rfl
  | ok invocation =>
    obtain ⟨globals, command⟩ := invocation
    cases command <;> rfl

/-- An exit code above 1 says that the program changed nothing, also where it stands for an
environment that could not be prepared. -/
theorem run_snd (h : 1 < (run world.host schedule start s).1.exitCode) :
    (run world.host schedule start s).2 = s := by
  have hstays := loadEnvironment_snd world start.environment s
  cases hload : loadEnvironment world.host start.environment s with
  | mk prepared s' =>
    rw [hload] at hstays
    subst hstays
    cases prepared with
    | error e =>
      have hrun : run world.host schedule start s' = _ := Filesystem.bind_apply hload
      rw [hrun]
      rfl
    | ok environment =>
      rw [run_of_parse world schedule hload] at h ⊢
      cases hparse : Invocation.parse environment start.words with
      | error e => rfl
      | ok invocation =>
        obtain ⟨globals, command⟩ := invocation
        rw [hparse] at h
        cases command with
        | generate options =>
          have hcode : 1 < (finish start globals
              (generate world.host schedule globals options s').1).exitCode := h
          rw [exitCode_finish] at hcode
          exact generate_snd world schedule hcode
        | init force =>
          have hcode : 1 < (finish start globals (create world.host force s').1).exitCode := h
          rw [exitCode_finish] at hcode
          exact (create_cases world force s').resolve_right (Nat.not_lt.mpr hcode)
        | completions shell => rfl

/-- How a `generate` command ends. -/
theorem run_generate {environment : Environment} {globals : GlobalOptions}
    {options : GenerateOptions}
    (hload : (loadEnvironment world.host start.environment s).1 = .ok environment)
    (hparse : Invocation.parse environment start.words = .ok ⟨globals, .generate options⟩) :
    (run world.host schedule start s).1.exitCode =
        (generate world.host schedule globals options s).1.exitCode ∧
      (run world.host schedule start s).2 =
        (generate world.host schedule globals options s).2 := by
  have hloaded : loadEnvironment world.host start.environment s = (.ok environment, s) :=
    Prod.ext hload (loadEnvironment_snd world start.environment s)
  rw [run_of_parse world schedule hloaded, hparse]
  exact ⟨exitCode_finish .., rfl⟩

/-- How an `init` command ends. -/
theorem run_init {environment : Environment} {globals : GlobalOptions} {force : Bool}
    (hload : (loadEnvironment world.host start.environment s).1 = .ok environment)
    (hparse : Invocation.parse environment start.words = .ok ⟨globals, .init force⟩) :
    (run world.host schedule start s).2 = (create world.host force s).2 := by
  have hloaded : loadEnvironment world.host start.environment s = (.ok environment, s) :=
    Prod.ext hload (loadEnvironment_snd world start.environment s)
  rw [run_of_parse world schedule hloaded, hparse]

end Run

/-- Every exit code but 0 and 1 says that nothing was changed.  A `generate` command that cannot be
settled changes nothing and tells why; one that has nothing to write changes nothing and ends well;
any other is a run, and the exit code tells how it went.  An `init` command that is not forced to
changes nothing where a config document is. -/
theorem run_endings (start : Start) (s : σ) :
    let ended := run world.host schedule start s
    (1 < ended.1.exitCode → ended.2 = s) ∧
    ∀ environment globals, (loadEnvironment world.host start.environment s).1 = .ok environment →
      (∀ options,
        Invocation.parse environment start.words = .ok ⟨globals, .generate options⟩ →
        match (resolve world.host.configSource options globals.config
          world.workingDirectory s).1 with
        | .error _ =>
          ended.2 = s ∧ world.TellsRefusal options globals.config s ended.1.exitCode
        | .ok resolved =>
          if resolved.config.services = [] ∨ options.dryRun = true then
            ended.2 = s ∧ ended.1.exitCode = 0
          else TellsRun world schedule resolved.config s ended.1.exitCode) ∧
      (Invocation.parse environment start.words = .ok ⟨globals, .init false⟩ →
        world.pathExists s (world.workingDirectory.child starterFileName) = true →
        ended.2 = s) := by
  intro ended
  refine ⟨run_snd world schedule, ?_⟩
  intro environment globals hload
  constructor
  · intro options hparse
    obtain ⟨hcode, hstate⟩ := run_generate world schedule hload hparse
    rcases world.resolve_cases options globals.config s with
      ⟨e, hresolve, htells⟩ | ⟨resolved, hresolve⟩
    · rw [generate_of_error world schedule hresolve] at hcode hstate
      rw [hresolve]
      refine ⟨hstate, ?_⟩
      rw [hcode]
      exact htells
    · rw [hresolve]
      dsimp only
      split
      · rename_i hidle
        obtain ⟨performed, hgenerate, hzero⟩ := generate_idle world schedule hresolve hidle
        rw [hgenerate] at hcode hstate
        exact ⟨hstate, hcode.trans hzero⟩
      · rename_i hbusy
        rw [generate_busy world schedule hresolve hbusy] at hcode
        rw [hcode]
        exact tellsRun_perform world schedule resolved.config s
  · intro hparse hthere
    have hstate := run_init world schedule hload hparse
    rw [create_existing world hthere] at hstate
    exact hstate

end World

/-- A home directory with a config document in it. -/
def home : Disk :=
  ⟨[(["home"], .directory), (["home", starterFileName], .file "{}".toUTF8)]⟩

/-- A service with two colons is none, and the config document is there already. -/
theorem run_endings_home :
    let world := Disk.world ⟨"/home"⟩ ["home"]
    let bad := run world.host .inOrder { words := ["generate", "a:b:c"], environment := [] } home
    let again := run world.host .inOrder { words := ["init"], environment := [] } home
    (bad.1.exitCode = 2 ∧ bad.2 = home) ∧ again.2 = home := by
  intro world bad again
  have hload : (loadEnvironment world.host [] home).1 = .ok [] := by decide +kernel
  constructor
  · obtain ⟨hunchanged, hends⟩ :=
      run_endings world .inOrder ⟨["generate", "a:b:c"], [], false, false⟩ home
    have hparse : Invocation.parse [] ["generate", "a:b:c"] =
        .ok ⟨{}, .generate { services := ["a:b:c"] }⟩ := by rfl
    have hbad : GenerateOptions.HasBadService { services := ["a:b:c"] } :=
      ⟨"a:b:c", List.mem_singleton_self _,
        .invalidServiceSpec "a:b:c" Service.SpecFault.tooManySeparators.reason, by rfl⟩
    have hcode : bad.1.exitCode = 2 := ((hends [] {} hload).1 _ hparse).2.badService hbad
    exact ⟨hcode, hunchanged (by rw [hcode]; decide)⟩
  · obtain ⟨-, hends⟩ := run_endings world .inOrder ⟨["init"], [], false, false⟩ home
    have hparse : Invocation.parse [] ["init"] = .ok ⟨{}, .init false⟩ := by rfl
    have hthere : world.pathExists home (world.workingDirectory.child starterFileName) = true := by
      decide +kernel
    exact (hends [] {} hload).2 hparse hthere

end Program

end ServiceScaffold
