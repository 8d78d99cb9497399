/-
The layers of a run.

A command is settled in three layers: what the command line says stands before what the config
document says, and that before the defaults.  A service that cannot be read ends it before any file
is looked at, and a document that cannot be loaded ends it even if nothing in it would be used.

* `OptionRule` — where one option of a document comes from; `TypesOptions.rules` and
  `RegisterOptions.rules` list them all.
* `Layered` — a run all of whose parts come from the first layer that gives them.
* `ConfigSource.ofState`, `ConfigSource.load_cases` — files that reading leaves alone, and what a
  document loaded from them says.
* `resolve_layered` — every command, with what it ends in.
-/
import ServiceScaffold.Command.Resolution
import ServiceScaffold.Host
import ServiceScaffold.Proofs.Config.Validation

namespace ServiceScaffold

/-! ### Services -/

namespace Service

/-- Why a specification is refused, if it is. -/
def refusal? (spec : String) : Option Error :=
  match ofSpec spec with
  | .ok _ => none
  | .error e => some e

/-- A specification stands for a service. -/
def IsSpecOf (spec : String) (service : Service) : Prop :=
  ofSpec spec = .ok service

/-- Specifications are read one by one, and the first that is refused ends it. -/
theorem ofSpecs_cases (specs : List String) :
    (∃ e, specs.findSome? refusal? = some e ∧ ofSpecs specs = .error e) ∨
    ∃ services, specs.findSome? refusal? = none ∧ List.Forall₂ IsSpecOf specs services ∧
      ofSpecs specs = .ok services := by
  induction specs with
  | nil => exact .inr ⟨[], rfl, .nil, rfl⟩
  | cons spec rest ih =>
    cases hspec : ofSpec spec with
    | error e =>
      have hrefused : refusal? spec = some e := by rw [refusal?, hspec]
      exact .inl ⟨e, by rw [List.findSome?_cons, hrefused], by rw [ofSpecs, hspec]⟩
    | ok service =>
      have haccepted : refusal? spec = none := by rw [refusal?, hspec]
      rw [List.findSome?_cons, haccepted, ofSpecs, hspec]
      rcases ih with ⟨e, hfirst, hrest⟩ | ⟨services, hnone, hservices, hrest⟩
      · exact .inl ⟨e, hfirst, by rw [hrest]⟩
      · exact .inr ⟨service :: services, hnone, .cons hspec hservices, by rw [hrest]⟩

end Service

/-! ### Options -/

/-- Where an option of a document comes from: a flag, a key of an object, or a default. -/
structure OptionRule (α : Type) where
  flag : GenerateOptions → Option String
  key : String
  fallback : String
  value : α → String

/-- Where the options of the shared types come from. -/
def TypesOptions.rules : List (OptionRule TypesOptions) :=
  [ ⟨GenerateOptions.library, "libraryPath", "@digen/container", libraryPath⟩,
    ⟨GenerateOptions.containerType, "containerType", "Container", containerType⟩,
    ⟨GenerateOptions.contextType, "contextType", "ServicesContainer", contextType⟩ ]

/-- Where the options of the registrations come from. -/
def RegisterOptions.rules : List (OptionRule RegisterOptions) :=
  [ ⟨GenerateOptions.library, "libraryPath", "@digen/container", libraryPath⟩,
    ⟨GenerateOptions.containerType, "containerType", "Container", containerType⟩,
    ⟨GenerateOptions.contextType, "contextType", "ServicesContainer", contextType⟩,
    ⟨GenerateOptions.typesModule, "typesModule", "./types", typesModule⟩ ]

/-- The text of a key of an object, if there is one. -/
def Json.textOf? (key : String) (object : Option Json) : Option String :=
  (object.bind (member? key)).bind text?

section Options

variable {α : Type}

/-- Every option is that of the flag, else that of the object, else the default. -/
def Settled (rules : List (OptionRule α)) (options : GenerateOptions) (object : Option Json)
    (o : α) : Prop :=
  ∀ rule ∈ rules, rule.value o =
    ((rule.flag options).or (Json.textOf? rule.key object)).getD rule.fallback

variable {rules : List (OptionRule α)} {known : List (String × (α → String))} {fallback : α}
  {options : GenerateOptions} {object : Option Json} {o : α}

theorem ConfigDocument.DescribesOptions.value_eq (h : DescribesOptions known fallback object o)
    {option : String × (α → String)} (hoption : option ∈ known) :
    option.2 o = (Json.textOf? option.1 object).getD (option.2 fallback) := by
  have htext := h.text option hoption
  unfold Json.textOf?
  cases hmember : object.bind (Json.member? option.1) with
  | none =>
    rw [hmember, Option.getD_none, Json.string.injEq] at htext
    exact htext.symm
  | some json =>
    rw [hmember, Option.getD_some] at htext
    rw [htext]
    rfl

/-- The flags are laid over options that a document describes. -/
theorem ConfigDocument.DescribesOptions.settled (h : DescribesOptions known fallback object o)
    (hknown : known = rules.map fun rule => (rule.key, rule.value))
    (hfallback : ∀ rule ∈ rules, rule.value fallback = rule.fallback) {overridden : α}
    (hflags : ∀ rule ∈ rules, rule.value overridden = (rule.flag options).getD (rule.value o)) :
    Settled rules options object overridden := by
  intro rule hrule
  have hoption : (rule.key, rule.value) ∈ known :=
    hknown ▸ List.mem_map_of_mem (f := fun rule => (rule.key, rule.value)) hrule
  have hvalue : rule.value o = (Json.textOf? rule.key object).getD rule.fallback :=
    hfallback rule hrule ▸ h.value_eq hoption
  rw [hflags rule hrule, hvalue]
  cases rule.flag options <;> rfl

end Options

theorem TypesOptions.settled {object : Option Json} {o : TypesOptions}
    (h : ConfigDocument.DescribesOptions known {} object o) (options : GenerateOptions) :
    Settled rules options object (options.overrideTypes o) := by
  refine h.settled rfl ?_ ?_
  · simp [rules]
  · simp [rules, GenerateOptions.overrideTypes]

theorem RegisterOptions.settled {object : Option Json} {o : RegisterOptions}
    (h : ConfigDocument.DescribesOptions known {} object o) (options : GenerateOptions) :
    Settled rules options object (options.overrideRegister o) := by
  refine h.settled rfl ?_ ?_
  · simp [rules]
  · simp [rules, GenerateOptions.overrideRegister]

/-! ### Layers -/

/-- A config document with the file and the value that it was read from. -/
structure LoadedDocument where
  file : Path
  value : Json
  document : ConfigDocument

/-- Every part of a run is that of the command line, else that of the document if one was loaded,
else the default; `given` are the services of the command line. -/
structure Layered (options : GenerateOptions) (given : List Service)
    (loaded : Option LoadedDocument) (run : ResolvedRun) : Prop where
  services : run.config.services =
    if given = [] then (loaded.map fun l => l.document.services).getD [] else given
  source : run.source =
    if given = [] then
      match loaded with
      | some l => .configFile l.file
      | none => .nothing
    else .commandLine
  output : run.config.output =
    (options.output.or (loaded.map fun l => l.document.output)).getD ⟨"services"⟩
  types : Settled TypesOptions.rules options (loaded.bind fun l => l.value.member? "types")
    run.config.types
  register : Settled RegisterOptions.rules options
    (loaded.bind fun l => l.value.member? "register") run.config.register

section Layers

variable (options : GenerateOptions) (given : List Service)

theorem layered_combineAlone : Layered options given none (options.combineAlone given) where
  services := by cases given <;> rfl
  source := by cases given <;> rfl
  output := by rw [Option.map_none, Option.or_none]; rfl
  types := TypesOptions.settled (ConfigDocument.readsKnown_types.describes_none_iff.mpr rfl) options
  register := RegisterOptions.settled
    (ConfigDocument.readsKnown_register.describes_none_iff.mpr rfl) options

theorem layered_combineWith (loaded : LoadedDocument)
    (h : ConfigDocument.Describes loaded.value loaded.document) :
    Layered options given (some loaded)
      (options.combineWith given loaded.file loaded.document) where
  services := by cases given <;> rfl
  source := by cases given <;> rfl
  output := by
    rw [GenerateOptions.combineWith]
    cases options.output <;> rfl
  types := TypesOptions.settled h.types options
  register := RegisterOptions.settled h.register options

end Layers

/-! ### Files -/

namespace ConfigSource

variable {σ : Type}

/-- Files as a state has them; reading them leaves the state as it is. -/
def ofState (isFile : σ → Path → Bool) (readBytes : σ → Path → Except IoFailure ByteArray) :
    ConfigSource (StateM σ) where
  isFile p := return isFile (← get) p
  readBytes p := return readBytes (← get) p

/-- The files of a disk are of this kind. -/
theorem ofState_disk (workingDirectory : Path) (location : Location) :
    (Disk.host workingDirectory location).configSource =
      ofState (fun disk => disk.isFile location) (fun disk => disk.readBytes location) :=
  rfl

section State

variable (isFile : σ → Path → Bool) (readBytes : σ → Path → Except IoFailure ByteArray) (s : σ)

@[simp]
theorem isFile_run (p : Path) : ((ofState isFile readBytes).isFile p).run s = (isFile s p, s) :=
  rfl

@[simp]
theorem readBytes_run (p : Path) :
    ((ofState isFile readBytes).readBytes p).run s = (readBytes s p, s) :=
  rfl

theorem firstFile?_run (paths : List Path) :
    ((ofState isFile readBytes).firstFile? paths).run s = (paths.find? (isFile s), s) := by
  induction paths with
  | nil => rfl
  | cons p rest ih =>
    rw [firstFile?, StateT.run_bind, isFile_run, List.find?_cons]
    cases isFile s p with
    | true => rfl
    | false => exact ih

theorem readText_run (p : Path) :
    ((ofState isFile readBytes).readText p).run s = ((readBytes s p).bind decodeText, s) := by
  rw [readText, StateT.run_bind, readBytes_run]
  cases readBytes s p <;> rfl

theorem load_run (p : Path) :
    ((ofState isFile readBytes).load p).run s =
      ((((readBytes s p).bind decodeText).mapError (.read p)).bind (ConfigDocument.parse p), s) := by
  rw [load, StateT.run_bind, readText_run]
  cases (readBytes s p).bind decodeText <;> rfl

/-- A document that is loaded is what the value in the file stands for. -/
theorem load_cases (p : Path) :
    (∃ e, ((ofState isFile readBytes).load p).run s = (.error e, s)) ∨
    ∃ value document, ((ofState isFile readBytes).load p).run s = (.ok document, s) ∧
      ((readBytes s p).toOption.bind String.fromUTF8?).bind Json.parse? = some value ∧
      ConfigDocument.Describes value document := by
  rw [load_run]
  -- loading goes on from the bytes to the text, to the value and to the document
  cases hbytes : readBytes s p with
  | error e => exact .inl ⟨.read p e, rfl⟩
  | ok bytes =>
    cases htext : String.fromUTF8? bytes with
    | none =>
      have hdecode : (Except.ok bytes).bind decodeText = .error .notText := by
        simp [Except.bind, decodeText, htext]
      rw [hdecode]
      exact .inl ⟨.read p .notText, rfl⟩
    | some text =>
      have hdecode : (Except.ok bytes).bind decodeText = .ok text := by
        simp [Except.bind, decodeText, htext]
      rw [hdecode, Except.mapError, Except.bind]
      cases hvalue : Json.parse? text with
      | none => exact .inl ⟨_, by rw [ConfigDocument.parse, hvalue]⟩
      | some value =>
        have hparse : ConfigDocument.parse p text = ConfigDocument.ofJson p value := by
          rw [ConfigDocument.parse, hvalue]
        have hreads := ConfigDocument.reads_ofJson p value
        rw [hparse]
        cases hdocument : ConfigDocument.ofJson p value with
        | error e => exact .inl ⟨e, rfl⟩
        | ok document =>
          rw [hdocument] at hreads
          refine .inr ⟨value, document, rfl, ?_, hreads.of_ok⟩
          simp [Except.toOption, htext, hvalue]

end State

end ConfigSource

/-! ### Commands -/

/-- What a command ends in. -/
theorem resolve_layered (options : GenerateOptions) (asked : Option Path) (directory : Path) :
    match options.services.findSome? Service.refusal? with
    | some e =>
      -- no file is looked at
      ∀ {m : Type → Type} [Monad m] (source : ConfigSource m),
        resolve source options asked directory = pure (.error (.core e))
    | none =>
      ∃ given, List.Forall₂ Service.IsSpecOf options.services given ∧
        ∀ {σ : Type} (isFile : σ → Path → Bool)
          (readBytes : σ → Path → Except IoFailure ByteArray) (s : σ),
          let source := ConfigSource.ofState isFile readBytes
          let file? :=
            match asked with
            | some path => some (directory.join path)
            | none =>
              (["digen.config.json", "digen.json", ".digenrc.json"].map directory.child).find?
                (isFile s)
          ∃ outcome, (resolve source options asked directory).run s = (outcome, s) ∧
            match file? with
            | none => ∃ run, outcome = .ok run ∧ Layered options given none run
            | some file =>
              match ((source.load file).run s).1 with
              | .error e => outcome = .error (.config e)
              | .ok document => ∃ value run,
                ((readBytes s file).toOption.bind String.fromUTF8?).bind Json.parse? = some value ∧
                ConfigDocument.Describes value document ∧
                outcome = .ok run ∧ Layered options given (some ⟨file, value, document⟩) run := by
  rcases Service.ofSpecs_cases options.services with
    ⟨e, hrefused, hspecs⟩ | ⟨given, haccepted, hgiven, hspecs⟩
  · rw [hrefused]
    intro m _ source
    rw [resolve, hspecs]
  · rw [haccepted]
    refine ⟨given, hgiven, fun {σ} isFile readBytes s => ?_⟩
    extract_lets source file?
    have hfile : (configFileOf source asked directory).run s = (file?, s) := by
      cases asked with
      | some path => rfl
      | none => exact ConfigSource.firstFile?_run isFile readBytes s _
    rw [resolve, hspecs]
    dsimp only
    rw [StateT.run_bind, hfile]
    clear_value file?
    cases file? with
    | none => exact ⟨_, rfl, _, rfl, layered_combineAlone options given⟩
    | some file =>
      rcases ConfigSource.load_cases isFile readBytes s file with
        ⟨e, hload⟩ | ⟨value, document, hload, hvalue, hdescribes⟩
      · refine ⟨.error (.config e), ?_, ?_⟩
        · change (source.load file >>= _).run s = _
          rw [StateT.run_bind, hload]
          rfl
        · simp only [source, hload]
      · refine ⟨.ok (options.combineWith given file document), ?_, ?_⟩
        · change (source.load file >>= _).run s = _
          rw [StateT.run_bind, hload]
          rfl
        · simp only [source, hload]
          exact ⟨value, _, hvalue, hdescribes, rfl,
            layered_combineWith options given ⟨file, value, document⟩ hdescribes⟩

-- a flag that both generated documents share goes to both, here over the defaults
example :
    (resolve (ConfigSource.ofState (fun _ _ => false) (fun _ _ => .error .notFound))
        { services := ["cache"], library := some "inversify" } none ⟨"/home"⟩).run () =
      (.ok
        { config := {
            output := ⟨"services"⟩
            services := [⟨"cache", "ICache", by decide⟩]
            types := { libraryPath := "inversify" }
            register := { libraryPath := "inversify" } }
          source := .commandLine }, ()) := by
  rfl

end ServiceScaffold
