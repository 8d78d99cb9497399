/-
The run of a config document.

A config document describes a run by itself, and a command that names no service and gives no option
asks for the run of the document it uses.  The two are the same: what keeps the document from being
loaded keeps the command from being settled, and otherwise the command has the output directory, the
services and the options of the document, but for an output directory of its own.  Options on the
command line change the options that they name, and nothing else.

* `GenerateOptions.IsPlain` — commands that leave all but the output directory to the document.
* `Overrides` — two runs that differ in the options that flags name.
* `World.resolve_of_configFile` — a command without services, by the document that is loaded.
* `World.resolve_document` — such a command against its document, with options and without.
-/
import ServiceScaffold.Proofs.Command.Endings
import ServiceScaffold.Proofs.Config.RoundTrip

namespace ServiceScaffold

/-- Neither services nor options of the documents are on the command line. -/
structure GenerateOptions.IsPlain (options : GenerateOptions) : Prop where
  services : options.services = []
  library : options.library = none
  containerType : options.containerType = none
  contextType : options.contextType = none
  typesModule : options.typesModule = none

/-- A run is another one with the options that flags name, each set to the value of its flag. -/
structure Overrides (flags : GenerateOptions) (before after : RunConfig) : Prop where
  output : after.output = before.output
  services : after.services = before.services
  types : ∀ rule ∈ TypesOptions.rules,
    rule.value after.types = (rule.flag flags).getD (rule.value before.types)
  register : ∀ rule ∈ RegisterOptions.rules,
    rule.value after.register = (rule.flag flags).getD (rule.value before.register)

namespace GenerateOptions

variable {options : GenerateOptions}

theorem IsPlain.combineWith_eq (h : options.IsPlain) (file : Path) (document : ConfigDocument) :
    options.combineWith [] file document =
      ⟨document.toRun options.output, .configFile file⟩ := by
  obtain ⟨-, hlibrary, hcontainer, hcontext, hmodule⟩ := h
  rw [combineWith, overrideTypes, overrideRegister, hlibrary, hcontainer, hcontext, hmodule]
  rfl

theorem overrides_combineWith (file : Path) (document : ConfigDocument) :
    Overrides options (document.toRun options.output)
      (options.combineWith [] file document).config where
  output := rfl
  services := rfl
  types := by simp [TypesOptions.rules, combineWith, overrideTypes, ConfigDocument.toRun]
  register := by simp [RegisterOptions.rules, combineWith, overrideRegister, ConfigDocument.toRun]

end GenerateOptions

/-! ### What a command is settled to -/

section Settled

variable {σ : Type} {loaded : Except ConfigError ConfigDocument}
  {combine : ConfigDocument → ResolvedRun} {s : σ}

theorem settled_eq_error_iff {e : CommandError} :
    ((loaded.mapError CommandError.config).map combine, s) = (.error e, s) ↔
      ∃ e', loaded = .error e' ∧ e = .config e' := by
  cases loaded <;> simp [Except.mapError, Except.map, eq_comm]

theorem settled_eq_ok_iff {run : ResolvedRun} :
    ((loaded.mapError CommandError.config).map combine, s) = (.ok run, s) ↔
      ∃ document, loaded = .ok document ∧ run = combine document := by
  cases loaded <;> simp [Except.mapError, Except.map, eq_comm]

end Settled

namespace World

variable {σ : Type} (world : World σ)

theorem load_of_text {file : Path} {s : σ} {text : String}
    (h : world.readBytes s file = .ok text.toUTF8) :
    world.host.configSource.load file s = (ConfigDocument.parse file text, s) := by
  have hload : world.host.configSource.load file s = _ :=
    ConfigSource.load_run world.isFile world.readBytes s file
  have hdecode : (Except.ok text.toUTF8).bind decodeText = .ok text := decodeText_toUTF8 text
  rw [hload, h, hdecode]
  rfl

/-- A command without services is settled by the document that its config file holds. -/
theorem resolve_of_configFile {options : GenerateOptions} (hservices : options.services = [])
    {asked : Option Path} {s : σ} {file : Path} (hfile : world.configFile? asked s = some file) :
    resolve world.host.configSource options asked world.workingDirectory s =
      ((((world.host.configSource.load file s).1.mapError .config).map
        (options.combineWith [] file)), s) := by
  have hload : world.host.configSource.load file s =
      ((world.host.configSource.load file s).1, s) := by
    rcases world.load_cases file s with ⟨e, hload, -⟩ | ⟨document, hload⟩
    · rw [hload]
    · rw [hload]
  have hspecs : Service.ofSpecs options.services = .ok [] := by
    rw [hservices]
    rfl
  rw [resolve, hspecs]
  dsimp only
  rw [Filesystem.bind_apply (world.configFileOf_run asked s), hfile]
  dsimp only
  rw [Filesystem.bind_apply hload]
  cases (world.host.configSource.load file s).1 <;> rfl

/-- A command that leaves all but the output directory to a config document is settled exactly when
the document can be loaded, and then it asks for the run of the document; otherwise the error is
that of loading it.  Options that are added to the command leave the error as it is, and of the run
they change the options that they name only. -/
theorem resolve_document {options : GenerateOptions} (hplain : options.IsPlain)
    (asked : Option Path) (s : σ) {file : Path} (hfile : world.configFile? asked s = some file) :
    let loaded := (world.host.configSource.load file s).1
    let settled (o : GenerateOptions) : Except CommandError ResolvedRun × σ :=
      resolve world.host.configSource o asked world.workingDirectory s
    (∀ e, settled options = (.error e, s) ↔ ∃ e', loaded = .error e' ∧ e = .config e') ∧
    (∀ run, settled options = (.ok run, s) ↔
      ∃ document, loaded = .ok document ∧
        run = ⟨document.toRun options.output, .configFile file⟩) ∧
    ∀ library containerType contextType typesModule : Option String,
      let flagged := { options with library, containerType, contextType, typesModule }
      (∀ e, settled flagged = (.error e, s) ↔ settled options = (.error e, s)) ∧
      ∀ run, settled options = (.ok run, s) →
        ∃ run', settled flagged = (.ok run', s) ∧ run'.source = run.source ∧
          Overrides flagged run.config run'.config := by
  intro loaded settled
  have hsettled (o : GenerateOptions) (hservices : o.services = []) :
      settled o = ((loaded.mapError .config).map (o.combineWith [] file), s) :=
    world.resolve_of_configFile hservices hfile
  have herror (o : GenerateOptions) (hservices : o.services = []) (e : CommandError) :
      settled o = (.error e, s) ↔ ∃ e', loaded = .error e' ∧ e = .config e' := by
    rw [hsettled o hservices, settled_eq_error_iff]
  have hok (o : GenerateOptions) (hservices : o.services = []) (run : ResolvedRun) :
      settled o = (.ok run, s) ↔
        ∃ document, loaded = .ok document ∧ run = o.combineWith [] file document := by
    rw [hsettled o hservices, settled_eq_ok_iff]
  refine ⟨herror options hplain.services, fun run => ?_,
    fun library containerType contextType typesModule => ?_⟩
  · rw [hok options hplain.services]
    simp only [hplain.combineWith_eq]
  · intro flagged
    refine ⟨fun e => ?_, fun run hrun => ?_⟩
    · rw [herror flagged hplain.services, herror options hplain.services]
    · obtain ⟨document, hloaded, rfl⟩ := (hok options hplain.services run).mp hrun
      rw [hplain.combineWith_eq]
      exact ⟨flagged.combineWith [] file document,
        (hok flagged hplain.services _).mpr ⟨document, hloaded, rfl⟩, rfl,
        GenerateOptions.overrides_combineWith file document⟩

/-- A home directory with the document that a new project starts from. -/
def starterHome : Disk :=
  ⟨[(["home"], .directory),
    (["home", starterFileName], .file ConfigDocument.starter.text.toUTF8)]⟩

/-- The document is found, and an output directory and a library are given on the command line. -/
theorem resolve_document_starter :
    let world := Disk.world ⟨"/home"⟩ ["home"]
    let file : Path := ⟨"/home/digen.config.json"⟩
    let options : GenerateOptions := { output := some ⟨"out"⟩ }
    let settled (o : GenerateOptions) : Except CommandError ResolvedRun × Disk :=
      resolve world.host.configSource o none world.workingDirectory starterHome
    world.configFile? none starterHome = some file ∧
    settled options =
      (.ok ⟨ConfigDocument.starter.toRun (some ⟨"out"⟩), .configFile file⟩, starterHome) ∧
    ∃ run, settled { options with library := some "inversify" } = (.ok run, starterHome) ∧
      run.config.services = ConfigDocument.starter.services ∧
      run.config.types.libraryPath = "inversify" ∧
      run.config.register.typesModule = "./types" := by
  intro world file options settled
  have hplain : options.IsPlain := ⟨rfl, rfl, rfl, rfl, rfl⟩
  have hfile : world.configFile? none starterHome = some file := by decide +kernel
  have hread : (Disk.world ⟨"/home"⟩ ["home"]).readBytes starterHome ⟨"/home/digen.config.json"⟩ =
      .ok ConfigDocument.starter.text.toUTF8 := by rfl
  have hloaded : (world.host.configSource.load file starterHome).1 =
      .ok ConfigDocument.starter := by
    rw [world.load_of_text hread, ConfigDocument.parse, ConfigDocument.text,
      Json.parse?_pretty ConfigDocument.starter.isPlain_toJson]
    rfl
  obtain ⟨-, hok, hflags⟩ := world.resolve_document hplain none starterHome hfile
  have hrun := (hok _).mpr ⟨_, hloaded, rfl⟩
  obtain ⟨run, hflagged, -, hoverrides⟩ :=
    (hflags (some "inversify") none none none).2 _ hrun
  have hlibrary := hoverrides.types _ List.mem_cons_self
  have hmodule := hoverrides.register _ (List.mem_of_getLast? rfl)
  exact ⟨hfile, hrun, run, hflagged, hoverrides.services, hlibrary, hmodule⟩

end World

end ServiceScaffold
