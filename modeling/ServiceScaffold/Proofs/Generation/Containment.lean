/-
Which runs stay in their output directory.

The name of a service is joined to the output directory as it is.  An absolute name replaces the
directory, and the two dots of a name climb out of it; the registration adds the steps of its own
file name, in which a separator that is dropped may leave two dots behind.  So the calls of a run
are in the output directory, whatever that is, exactly when no name is absolute and the steps to no
registration climb above where they start.

* `Service.isContained` — whether the files of a service are in every output directory.
* `Service.isContained_iff` — among names without a slash, only two dots are not.
* `run_liesIn_output_iff` — the runs that stay in their output directory.
* `plan_outside_output` — one that does not.
-/
import ServiceScaffold.Config.Reader
import ServiceScaffold.Proofs.Generation.Effects
import ServiceScaffold.Proofs.Path.Resolution

namespace ServiceScaffold

/-! ### Services -/

namespace Service

/-- The steps from the output directory to the registration of a service. -/
def steps (s : Service) : List Component :=
  Path.steps s.name.toList ++ Path.steps (Document.registrationName s).toList

/-- Whether the files of a service are in every output directory. -/
def isContained (s : Service) : Bool :=
  !Path.isAbsolute ⟨s.name⟩ && Path.stays 0 s.steps

theorem isContained_iff_stays {s : Service} :
    s.isContained = true ↔ s.name.toList.head? ≠ some '/' ∧ Path.stays 0 s.steps = true := by
  simp [isContained, Path.isAbsolute]

/-- Of the names that hold no slash, two dots alone lead out of the output directory. -/
theorem isContained_iff {s : Service} (h : '/' ∉ s.name.toList) :
    s.isContained = true ↔ s.name ≠ ".." := by
  have hfile : Path.steps (Document.registrationName s).toList =
      [.normal (Document.registrationName s)] := by
    rw [Path.steps_of_slash_not_mem (RunConfig.slash_not_mem_registrationName h),
      RunConfig.step?_registrationName]
    rfl
  have hname : s.name = ".." ↔ Path.step? s.name.toList = some .parent := by
    constructor
    · intro hdots
      rw [hdots]
      rfl
    · intro hstep
      apply String.toList_injective
      exact (Path.spelling_of_step? hstep).symm
  have hrelative : s.name.toList.head? ≠ some '/' := Path.head?_ne_slash h
  rw [isContained_iff_stays, steps, hfile, Path.steps_of_slash_not_mem h, and_iff_right hrelative,
    Ne, hname]
  cases hstep : Path.step? s.name.toList with
  | none => simp [Path.stays]
  | some c =>
    cases c with
    | normal name => simp [Path.stays]
    | parent => simp [Path.stays]
    | root => exact absurd hstep Path.step?_ne_root
    | current => exact absurd hstep Path.step?_ne_current

-- separators are dropped from the file name, and the dots around them meet
example :
    Path.stays 0 (Path.steps "a/._./../._./../._./../b".toList) = true ∧
      isContained ⟨"a/._./../._./../._./../b", "IB", by decide⟩ = false := by
  decide +kernel

end Service

/-! ### Paths of a run -/

namespace RunConfig

variable {config : RunConfig} {output : Path} {s : Service}

theorem head?_registrationName_ne_slash (s : Service) :
    (Document.registrationName s).toList.head? ≠ some '/' := by
  simp [Document.registrationName, String.toList_append]

theorem resolved_registrationFile (h : s.name.toList.head? ≠ some '/') :
    (config.registrationFile s).resolved =
      s.steps.foldl Path.resolveStep config.output.resolved := by
  rw [registrationFile, serviceDirectory,
    Path.resolved_child _ (head?_registrationName_ne_slash s), Path.resolved_child _ h,
    Service.steps, List.foldl_append]

theorem serviceDirectory_liesIn (houtput : config.output = output) (h : s.isContained = true) :
    (config.serviceDirectory s).liesIn output = true := by
  obtain ⟨hrelative, hstays⟩ := Service.isContained_iff_stays.mp h
  rw [← houtput]
  exact Path.liesIn_of_stays (Path.components_prefix_child _ hrelative)
    (Path.resolved_child _ hrelative) (Path.stays_of_append hstays)

theorem typesPath_liesIn (houtput : config.output = output) (h : s.isContained = true) :
    (config.typesPath s).liesIn output = true := by
  have hfile : Document.typesFileName.toList.head? ≠ some '/' := by decide
  exact Path.liesIn_trans
    (Path.liesIn_of_stays (Path.components_prefix_child _ hfile) (Path.resolved_child _ hfile)
      (by decide))
    (serviceDirectory_liesIn houtput h)

theorem registrationFile_liesIn (houtput : config.output = output) (h : s.isContained = true) :
    (config.registrationFile s).liesIn output = true := by
  obtain ⟨hrelative, hstays⟩ := Service.isContained_iff_stays.mp h
  have hfile := head?_registrationName_ne_slash s
  rw [← houtput]
  exact Path.liesIn_of_stays
    ((Path.components_prefix_child _ hrelative).trans (Path.components_prefix_child _ hfile))
    (resolved_registrationFile hrelative) hstays

/-- Below the empty path, a registration is where its service puts it. -/
theorem isContained_of_liesIn (houtput : config.output = ⟨""⟩)
    (h : (config.registrationFile s).liesIn ⟨""⟩ = true) : s.isContained = true := by
  obtain ⟨-, names, hnames⟩ := Path.liesIn_iff.mp h
  have hresolved : (config.registrationFile s).resolved = names.map .normal := hnames
  by_cases habsolute : s.name.toList.head? = some '/'
  · -- an absolute name begins at the root
    obtain ⟨others, hname⟩ := List.head?_eq_some_iff.mp habsolute
    have hdirectory : config.serviceDirectory s = ⟨s.name⟩ := by
      simp [serviceDirectory, Path.child, Path.join, Path.isAbsolute, habsolute]
    have hcomponents : (config.registrationFile s).components =
        .root :: (Path.steps others ++ Path.steps (Document.registrationName s).toList) := by
      rw [registrationFile, Path.components_child _ (config.serviceDirectory_text_ne_empty s)
        (head?_registrationName_ne_slash s), hdirectory, Path.components, hname,
        Path.componentsOf_slash_cons, List.cons_append]
    rw [Path.resolved, hcomponents, List.foldl_cons] at hresolved
    exact absurd hresolved (Path.foldl_resolveStep_ne_names rfl [] _ names)
  · rw [resolved_registrationFile habsolute, houtput] at hresolved
    exact Service.isContained_iff_stays.mpr
      ⟨habsolute, (Path.stays_iff []).mpr ⟨names, hresolved⟩⟩

end RunConfig

/-! ### Calls of a run -/

namespace Call

/-- The path that a call is about. -/
def path : Call → Path
  | .createDirectories p _ | .writeFile p _ _ | .pathExists p _ => p

/-- Whether a call was answered by an error. -/
def isRefused : Call → Bool
  | .createDirectories _ (.error _) | .writeFile _ _ (.error _) => true
  | .createDirectories _ (.ok ()) | .writeFile _ _ (.ok ()) | .pathExists _ _ => false

end Call

/-- A filesystem that refuses nothing. -/
def Filesystem.accepting : Filesystem (StateM Unit) where
  createDirectories _ := return .ok ()
  writeFile _ _ := return .ok ()
  pathExists _ := return true

namespace Generation

open RunConfig

section Calls

variable {config : RunConfig}

theorem path_of_mem_preparation {c : Course} {call : Call} (h : call ∈ c.preparation config) :
    call.path = config.serviceDirectory c.service ∨ call.path = config.typesPath c.service := by
  obtain ⟨service, fate⟩ := c
  cases fate with
  | noDirectory e =>
    obtain rfl := List.mem_singleton.mp h
    exact .inl rfl
  | _ =>
    rcases List.mem_pair.mp h with rfl | rfl
    · exact .inl rfl
    · exact .inr rfl

theorem path_call (options : RegisterOptions) (d : Done) : (d.call options).path = d.task.path := by
  rw [Done.call, Call.path]

/-- A task belongs to one of the services, and is to write its registration. -/
theorem exists_service_of_task {courses : List Course} {task : Task}
    (h : task ∈ tasks (courses.map (·.prepared config))) :
    ∃ c ∈ courses, task = c.task config := by
  rw [tasks_prepared] at h
  obtain ⟨c, hc, htask⟩ := List.mem_map.mp h
  exact ⟨c, (List.mem_filter.mp hc).1, htask.symm⟩

theorem exists_refused_of_not_prepared (config : RunConfig) {c : Course}
    (h : c.isPrepared = false) : ∃ call ∈ c.preparation config, call.isRefused = true := by
  obtain ⟨service, fate⟩ := c
  cases fate with
  | noDirectory e => exact ⟨_, List.mem_cons_self, rfl⟩
  | noTypes e => exact ⟨_, List.mem_cons_of_mem _ List.mem_cons_self, rfl⟩
  | noRegistration e => exact absurd h (by simp [Course.isPrepared])
  | complete => exact absurd h (by simp [Course.isPrepared])

variable (config) (schedule : Schedule)

/-- What holds of the output directory and of the paths of every service holds of the path of every
call. -/
theorem forall_calls {σ : Type} (fs : Filesystem (StateM σ)) (s : σ) {Q : Path → Prop}
    (houtput : Q config.output)
    (hservices : ∀ t ∈ config.services, Q (config.serviceDirectory t) ∧ Q (config.typesPath t) ∧
      Q (config.registrationFile t)) :
    ∀ call ∈ (run fs.recorded schedule config (s, [])).2.2, Q call.path := by
  intro call hcall
  cases hroot : (fs.createDirectories config.output s).1 with
  | error e =>
    obtain ⟨s', hrun⟩ := run_refused fs schedule config s hroot
    rw [hrun.recorded] at hcall
    obtain rfl := List.mem_singleton.mp hcall
    exact houtput
  | ok _ =>
    obtain ⟨courses, done, s', hlisted, hcarried, -, hrun⟩ := run_phases fs schedule config s hroot
    have hcourse {c : Course} (hc : c ∈ courses) := hservices c.service
      (hlisted ▸ List.mem_map_of_mem hc)
    rw [hrun.recorded] at hcall
    rcases List.mem_cons.mp hcall with rfl | hcall
    · exact houtput
    rcases List.mem_append.mp hcall with hfirst | hlate
    · obtain ⟨c, hc, hmem⟩ := List.mem_flatMap.mp hfirst
      rcases path_of_mem_preparation hmem with hpath | hpath
      · exact hpath ▸ (hcourse hc).1
      · exact hpath ▸ (hcourse hc).2.1
    · obtain ⟨d, hd, rfl⟩ := List.mem_map.mp hlate
      obtain ⟨c, hc, htask⟩ := exists_service_of_task (List.mem_of_getElem? (hcarried.task d hd))
      simp only [path_call, htask, Course.task]
      exact (hcourse hc).2.2

/-- Where nothing is refused, the registration of every service is written. -/
theorem exists_registration_call {t : Service} (ht : t ∈ config.services) :
    ∃ call ∈ (run Filesystem.accepting.recorded schedule config ((), [])).2.2,
      call.path = config.registrationFile t := by
  obtain ⟨courses, done, s', hlisted, hcarried, -, hrun⟩ :=
    run_phases Filesystem.accepting schedule config () rfl
  have haccepted : ∀ call ∈ (run Filesystem.accepting.recorded schedule config ((), [])).2.2,
      call.isRefused = false := by
    have hpreserved : Filesystem.Preserves
        (fun record : Unit × List Call => ∀ call ∈ record.2, call.isRefused = false)
        (run Filesystem.accepting.recorded schedule config) :=
      run_preserves (fun p _ h => List.forall_mem_append.mpr ⟨h, by simp [Call.isRefused]⟩)
        (fun p content _ h => List.forall_mem_append.mpr ⟨h, by simp [Call.isRefused]⟩)
        schedule config
    exact hpreserved ((), []) (by simp)
  rw [hrun.recorded] at haccepted ⊢
  -- so no service is left out after the first phase
  rw [← hlisted] at ht
  obtain ⟨c, hc, rfl⟩ := List.mem_map.mp ht
  have hprepared : c.isPrepared = true := by
    by_contra hnot
    obtain ⟨call, hcall, hrefused⟩ :=
      exists_refused_of_not_prepared config (Bool.eq_false_iff.mpr hnot)
    have hmem : call ∈ courses.flatMap (·.preparation config) :=
      List.mem_flatMap.mpr ⟨c, hc, hcall⟩
    rw [haccepted call (List.mem_cons_of_mem _ (List.mem_append_left _ hmem))] at hrefused
    exact absurd hrefused (by simp)
  have htask : c.task config ∈ tasks (courses.map (·.prepared config)) := by
    rw [tasks_prepared]
    exact List.mem_map_of_mem (List.mem_filter.mpr ⟨hc, hprepared⟩)
  rw [← hcarried.inTaskOrder_task] at htask
  obtain ⟨d, hd, hdtask⟩ := List.mem_map.mp htask
  have hdone : d ∈ done := hcarried.inTaskOrder_perm.mem_iff.mp hd
  refine ⟨d.call config.register, List.mem_cons_of_mem _ (List.mem_append_right _
    (List.mem_map_of_mem hdone)), ?_⟩
  simp only [path_call, hdtask, Course.task]

end Calls

/-! ### Containment -/

/-- The runs that stay in their output directory. -/
theorem run_liesIn_output_iff (services : List Service) (types : TypesOptions)
    (register : RegisterOptions) :
    let config (output : Path) : RunConfig := ⟨output, services, types, register⟩
    -- the plan
    ((∀ output : Path, ∃ files, (config output).plan = .ok files ∧
        ∀ file ∈ files, file.path.liesIn output = true) ↔
      ∀ s ∈ services, s.isContained = true) ∧
    -- the calls
    ((∀ (output : Path) (σ : Type) (fs : Filesystem (StateM σ)) (state : σ) (schedule : Schedule),
        ∀ call ∈ (run fs.recorded schedule (config output) (state, [])).2.2,
          call.path.liesIn output = true) ↔
      ∀ s ∈ services, s.isContained = true) ∧
    -- the names without a slash
    ∀ s ∈ services, '/' ∉ s.name.toList → (s.isContained = true ↔ s.name ≠ "..") := by
  intro config
  have hcontained (output : Path) {s : Service} (h : s.isContained = true) :
      ((config output).serviceDirectory s).liesIn output = true ∧
      ((config output).typesPath s).liesIn output = true ∧
      ((config output).registrationFile s).liesIn output = true :=
    ⟨serviceDirectory_liesIn rfl h, typesPath_liesIn rfl h, registrationFile_liesIn rfl h⟩
  refine ⟨⟨?_, ?_⟩, ⟨?_, ?_⟩, fun s _ hslash => Service.isContained_iff hslash⟩
  · intro h s hs
    obtain ⟨files, hplan, hfiles⟩ := h ⟨""⟩
    rw [(config ⟨""⟩).plan_eq, Except.ok.injEq] at hplan
    subst hplan
    have hregistration := hfiles ⟨s.name, .registration, (config ⟨""⟩).registrationFile s⟩
      (List.mem_flatMap.mpr ⟨s, hs, by simp⟩)
    dsimp only at hregistration
    exact isContained_of_liesIn rfl hregistration
  · intro h output
    refine ⟨_, (config output).plan_eq, fun file hfile => ?_⟩
    obtain ⟨s, hs, hmem⟩ := List.mem_flatMap.mp hfile
    obtain ⟨-, htypes, hregistration⟩ := hcontained output (h s hs)
    rcases List.mem_pair.mp hmem with rfl | rfl
    · dsimp only
      exact htypes
    · dsimp only
      exact hregistration
  · intro h s hs
    obtain ⟨call, hcall, hpath⟩ := exists_registration_call (config ⟨""⟩) .inOrder hs
    have hregistration := h ⟨""⟩ Unit .accepting () .inOrder call hcall
    rw [hpath] at hregistration
    exact isContained_of_liesIn rfl hregistration
  · intro h output σ fs state schedule
    exact forall_calls (config output) schedule fs state (Q := fun p => p.liesIn output = true)
      (Path.liesIn_self output) fun s hs => hcontained output (h s hs)

/-- An absolute name and two dots put the files of a service outside the output directory, although
specifications and a config document may give both. -/
theorem plan_outside_output :
    ∃ services files,
      Service.ofSpecs ["/srv:ISrv", "..:IUp"] = .ok services ∧
      ConfigDocument.parse ⟨"digen.json"⟩
        ("\x7b\"output\": \"out\", \"services\": [" ++
          "\x7b\"name\": \"/srv\", \"interface\": \"ISrv\"\x7d, " ++
          "\x7b\"name\": \"..\", \"interface\": \"IUp\"\x7d]\x7d") =
          .ok ⟨⟨"out"⟩, services, {}, {}⟩ ∧
      RunConfig.plan ⟨⟨"out"⟩, services, {}, {}⟩ = .ok files ∧
      files.map (·.path) =
        [⟨"/srv/types.ts"⟩, ⟨"/srv/register/srv.ts"⟩, ⟨"out/../types.ts"⟩,
          ⟨"out/../register...ts"⟩] ∧
      ∀ file ∈ files, file.path.liesIn ⟨"out"⟩ = false := by
  refine ⟨[⟨"/srv", "ISrv", by decide⟩, ⟨"..", "IUp", by decide⟩],
    [⟨"/srv", .sharedTypes, ⟨"/srv/types.ts"⟩⟩, ⟨"/srv", .registration, ⟨"/srv/register/srv.ts"⟩⟩,
      ⟨"..", .sharedTypes, ⟨"out/../types.ts"⟩⟩, ⟨"..", .registration, ⟨"out/../register...ts"⟩⟩],
    ?_, ?_, ?_, rfl, ?_⟩
  · decide +kernel
  · decide +kernel
  · decide +kernel
  · decide +kernel

end Generation

end ServiceScaffold
