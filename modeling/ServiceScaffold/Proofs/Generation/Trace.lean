/-
The calls of a run, and what its report makes of them.

On any filesystem, a run that can start makes the calls for the services one service after another:
the directory, and the shared types if the directory was created.  Then come the registrations of
the services for which neither was refused, in any order.  Where the calls for a service stopped is
its `Fate`, and the report says of each service what its fate is.

* `Course` — a service with its fate; `Course.preparation`, `Course.registrationCall`: its calls.
* `report` — the report of services with given fates.
* `run_refused`, `run_phases`, `run_traced` — every run, with all its calls.
-/
import ServiceScaffold.Proofs.Generation.Plan
import ServiceScaffold.Proofs.Generation.TaskOrder

namespace ServiceScaffold.Generation

/-- Which of the calls for a service was refused, if one was. -/
inductive Fate where
  | noDirectory (e : Error)
  | noTypes (e : Error)
  | noRegistration (e : Error)
  | complete

/-- How the call that writes a registration was answered. -/
def Fate.ofAnswer : Except Error Unit → Fate
  | .ok () => .complete
  | .error e => .noRegistration e

/-- A service in a run. -/
structure Course where
  service : Service
  fate : Fate

namespace Course

/-- Whether the directory and the shared types are there. -/
def isPrepared (c : Course) : Bool :=
  match c.fate with
  | .noDirectory _ | .noTypes _ => false
  | .noRegistration _ | .complete => true

/-- Whether both files are there. -/
def isComplete (c : Course) : Bool :=
  match c.fate with
  | .complete => true
  | .noDirectory _ | .noTypes _ | .noRegistration _ => false

/-- The failure of the first phase. -/
def preparationFailure? (c : Course) : Option ServiceFailure :=
  match c.fate with
  | .noDirectory e | .noTypes e => some ⟨c.service.name, e⟩
  | .noRegistration _ | .complete => none

/-- The failure of the second phase. -/
def registrationFailure? (c : Course) : Option ServiceFailure :=
  match c.fate with
  | .noRegistration e => some ⟨c.service.name, e⟩
  | .noDirectory _ | .noTypes _ | .complete => none

/-- The answer to the call that writes the registration, if it is made. -/
def answer (c : Course) : Except Error Unit :=
  match c.fate with
  | .noRegistration e => .error e
  | .noDirectory _ | .noTypes _ | .complete => .ok ()

variable (config : RunConfig)

/-- The task that the first phase makes of a service. -/
def task (c : Course) : Task :=
  ⟨c.service, config.registrationFile c.service⟩

/-- What the first phase leaves of a service. -/
def prepared (c : Course) : Prepared :=
  match c.fate with
  | .noDirectory e | .noTypes e => ⟨c.service, false, .error e⟩
  | .noRegistration _ | .complete => ⟨c.service, true, .ok (c.task config)⟩

/-- The calls of the first phase. -/
def preparation (c : Course) : List Call :=
  let directory := Call.createDirectories (config.serviceDirectory c.service)
  let types := Call.writeFile (config.typesPath c.service) (Document.typesText config.types)
  match c.fate with
  | .noDirectory e => [directory (.error e)]
  | .noTypes e => [directory (.ok ()), types (.error e)]
  | .noRegistration _ | .complete => [directory (.ok ()), types (.ok ())]

/-- The call that writes the registration. -/
def registrationCall (c : Course) : Call :=
  .writeFile (config.registrationFile c.service)
    (Document.registrationText c.service config.register) c.answer

end Course

/-- The report on services with given fates. -/
def report (config : RunConfig) (courses : List Course) : Report where
  services := courses.length
  written :=
    (courses.filter (·.isPrepared)).map (fun c => config.typesPath c.service) ++
      (courses.filter (·.isComplete)).map (fun c => config.registrationFile c.service)
  failures :=
    courses.filterMap (·.preparationFailure?) ++ courses.filterMap (·.registrationFailure?)

/-! ### The first phase -/

section Phases

variable {σ : Type} (fs : Filesystem (StateM σ)) (config : RunConfig)

theorem writeTypes_eq (path : Path) (options : TypesOptions) :
    writeTypes fs path options = fs.writeFile path (Document.typesText options) := by
  have hdocument := Document.types_eq options
  unfold writeTypes
  rw [hdocument]

/-- One service in the first phase: a step of the run. -/
theorem prepare_mirrors (service : Service) (s : σ) :
    ∃ (c : Course) (s' : σ), c.service = service ∧
      Filesystem.Mirrors (prepare fs config service) (prepare fs.recorded config service) s
        (c.prepared config) s' (c.preparation config) := by
  obtain ⟨created, s₁, hdirectory⟩ :=
    fs.createDirectories_mirrors (config.serviceDirectory service) s
  obtain ⟨written, s₂, htypes⟩ :=
    fs.writeFile_mirrors (config.typesPath service) (Document.typesText config.types) s₁
  have hpath := config.registrationPath_eq service
  unfold prepare
  simp only [writeTypes_eq, hpath]
  match created, written with
  | .error e, _ =>
    exact ⟨⟨service, .noDirectory e⟩, s₁, rfl, hdirectory.bind (.pure s₁ _)⟩
  | .ok (), .error e =>
    exact ⟨⟨service, .noTypes e⟩, s₂, rfl, hdirectory.bind (htypes.bind (.pure s₂ _))⟩
  | .ok (), .ok () =>
    exact ⟨⟨service, .complete⟩, s₂, rfl, hdirectory.bind (htypes.bind (.pure s₂ _))⟩

theorem prepareAll_mirrors (services : List Service) (s : σ) :
    ∃ (courses : List Course) (s' : σ), courses.map (·.service) = services ∧
      Filesystem.Mirrors (prepareAll fs config services) (prepareAll fs.recorded config services) s
        (courses.map (·.prepared config)) s' (courses.flatMap (·.preparation config)) := by
  induction services generalizing s with
  | nil => exact ⟨[], s, rfl, .pure s []⟩
  | cons service rest ih =>
    obtain ⟨c, s₁, hservice, hfirst⟩ := prepare_mirrors fs config service s
    obtain ⟨courses, s₂, hservices, hrest⟩ := ih s₁
    refine ⟨c :: courses, s₂, by simp [hservice, hservices], ?_⟩
    simpa [prepareAll] using hfirst.bind
      (f := fun first => prepareAll fs config rest >>= fun others => pure (first :: others))
      (g := fun first => prepareAll fs.recorded config rest >>= fun others => pure (first :: others))
      (hrest.bind (.pure _ _))

/-- The tasks are those of the prepared services. -/
theorem tasks_prepared (courses : List Course) :
    tasks (courses.map (·.prepared config)) =
      (courses.filter (·.isPrepared)).map (·.task config) := by
  induction courses with
  | nil => rfl
  | cons c rest ih =>
    obtain ⟨service, fate⟩ := c
    cases fate <;> simpa [tasks, Course.prepared, Course.isPrepared, Except.toOption] using ih

theorem preparationFailures_prepared (courses : List Course) :
    preparationFailures (courses.map (·.prepared config)) =
      courses.filterMap (·.preparationFailure?) := by
  rw [preparationFailures, List.filterMap_map]
  refine List.filterMap_congr fun c _ => ?_
  obtain ⟨service, fate⟩ := c
  cases fate <;> rfl

end Phases

/-! ### The second phase -/

/-- Gives each prepared service the answer to its registration. -/
def settle : List Course → List (Except Error Unit) → List Course
  | [], _ => []
  | courses, [] => courses
  | c :: rest, answer :: others =>
    if c.isPrepared then ⟨c.service, .ofAnswer answer⟩ :: settle rest others
    else c :: settle rest (answer :: others)

section Settle

variable (config : RunConfig) {courses : List Course} {answers : List (Except Error Unit)}

theorem Fate.answer_ofAnswer (service : Service) (answer : Except Error Unit) :
    Course.answer ⟨service, .ofAnswer answer⟩ = answer := by
  cases answer <;> rfl

theorem isPrepared_ofAnswer (service : Service) (answer : Except Error Unit) :
    Course.isPrepared ⟨service, .ofAnswer answer⟩ = true := by
  cases answer <;> rfl

/-- What does not depend on the registration is kept. -/
theorem map_settle {α : Type} (f : Course → α)
    (hf : ∀ c : Course, c.isPrepared = true → ∀ answer, f ⟨c.service, .ofAnswer answer⟩ = f c) :
    (settle courses answers).map f = courses.map f := by
  fun_induction settle courses answers with
  | case1 => rfl
  | case2 => rfl
  | case3 c rest answer others hprepared ih => simp [ih, hf c hprepared answer]
  | case4 c rest answer others hprepared ih => simp [ih]

theorem settle_prepared (courses : List Course) (answers : List (Except Error Unit)) :
    (settle courses answers).map (·.prepared config) = courses.map (·.prepared config) := by
  refine map_settle _ fun c hprepared answer => ?_
  obtain ⟨service, fate⟩ := c
  cases fate <;> cases answer <;> first | rfl | simp [Course.isPrepared] at hprepared

theorem settle_preparation (courses : List Course) (answers : List (Except Error Unit)) :
    (settle courses answers).flatMap (·.preparation config) =
      courses.flatMap (·.preparation config) := by
  rw [List.flatMap_def, List.flatMap_def]
  congr 1
  refine map_settle _ fun c hprepared answer => ?_
  obtain ⟨service, fate⟩ := c
  cases fate <;> cases answer <;> first | rfl | simp [Course.isPrepared] at hprepared

theorem settle_answers (h : answers.length = (courses.filter (·.isPrepared)).length) :
    ((settle courses answers).filter (·.isPrepared)).map (·.answer) = answers := by
  -- each prepared service takes the next answer, and as many are prepared as there are answers
  fun_induction settle courses answers with
  | case1 => exact (List.eq_nil_of_length_eq_zero h).symm
  | case2 courses => rw [List.eq_nil_of_length_eq_zero h.symm, List.map_nil]
  | case3 c rest answer others hprepared ih =>
    have hothers : others.length = (rest.filter (·.isPrepared)).length := by
      simpa [hprepared] using h
    simp [isPrepared_ofAnswer, Fate.answer_ofAnswer, ih hothers]
  | case4 c rest answer others hprepared ih =>
    have hrest : (answer :: others).length = (rest.filter (·.isPrepared)).length := by
      simpa [hprepared] using h
    simpa [hprepared] using ih hrest

theorem settle_nil (courses : List Course) : settle courses [] = courses := by
  cases courses <;> rfl

/-- A service that is not prepared takes no answer. -/
theorem settle_cons_of_not_prepared {c : Course} (h : ¬ c.isPrepared = true) (rest : List Course)
    (answers : List (Except Error Unit)) :
    settle (c :: rest) answers = c :: settle rest answers := by
  cases answers with
  | nil => rw [settle_nil, settle_nil]
  | cons answer others => rw [settle, if_neg h]

/-- Courses whose registrations are answered already stay as they are. -/
theorem settle_self (courses : List Course) :
    settle courses ((courses.filter (·.isPrepared)).map (·.answer)) = courses := by
  induction courses with
  | nil => rfl
  | cons c rest ih =>
    by_cases hprepared : c.isPrepared = true
    · have hfate : (⟨c.service, .ofAnswer c.answer⟩ : Course) = c := by
        obtain ⟨service, fate⟩ := c
        cases fate <;> first | rfl | simp [Course.isPrepared] at hprepared
      rw [List.filter_cons, if_pos hprepared, List.map_cons, settle, if_pos hprepared, ih, hfate]
    · rw [List.filter_cons, if_neg hprepared, settle_cons_of_not_prepared hprepared, ih]

end Settle

/-! ### The report -/

section Report

variable (config : RunConfig)

/-- The tasks in their own order, each with its outcome, are the prepared services with the answers
to their registrations. -/
theorem inTaskOrder_settle {courses : List Course} {done : List Done}
    (h : CarriedOut (tasks (courses.map (·.prepared config))) done) :
    let ordered := inTaskOrder (tasks (courses.map (·.prepared config))).length done
    ordered.map (fun d => (d.task, d.outcome)) =
      ((settle courses (ordered.map (·.outcome))).filter (·.isPrepared)).map
        fun c => (c.task config, c.answer) := by
  intro ordered
  have htasks : ordered.map (·.task) = (courses.filter (·.isPrepared)).map (·.task config) := by
    rw [h.inTaskOrder_task, tasks_prepared]
  have hlength : (ordered.map (·.outcome)).length = (courses.filter (·.isPrepared)).length := by
    simpa using congrArg List.length htasks
  have hsettled : ((settle courses (ordered.map (·.outcome))).filter (·.isPrepared)).map
      (·.task config) = ordered.map (·.task) := by
    rw [← tasks_prepared, settle_prepared, tasks_prepared, htasks]
  rw [← List.zip_map', ← List.zip_map', settle_answers hlength, hsettled]

theorem registrationsWritten_eq {courses : List Course} {done : List Done}
    (h : done.map (fun d => (d.task, d.outcome)) =
      (courses.filter (·.isPrepared)).map fun c => (c.task config, c.answer)) :
    registrationsWritten done =
      (courses.filter (·.isComplete)).map fun c => config.registrationFile c.service := by
  have hpairs : registrationsWritten done =
      (done.map fun d => (d.task, d.outcome)).filterMap fun (task, outcome) =>
        match outcome with
        | .ok () => some task.path
        | .error _ => none := by
    rw [List.filterMap_map]
    rfl
  rw [hpairs, h, List.filterMap_map]
  clear h hpairs
  induction courses with
  | nil => rfl
  | cons c rest ih =>
    obtain ⟨service, fate⟩ := c
    cases fate <;> simpa [Course.isPrepared, Course.isComplete, Course.answer, Course.task] using ih

theorem registrationFailures_eq {courses : List Course} {done : List Done}
    (h : done.map (fun d => (d.task, d.outcome)) =
      (courses.filter (·.isPrepared)).map fun c => (c.task config, c.answer)) :
    registrationFailures done = courses.filterMap (·.registrationFailure?) := by
  have hpairs : registrationFailures done =
      (done.map fun d => (d.task, d.outcome)).filterMap fun (task, outcome) =>
        match outcome with
        | .ok () => none
        | .error e => some ⟨task.service.name, e⟩ := by
    rw [List.filterMap_map]
    rfl
  rw [hpairs, h, List.filterMap_map]
  clear h hpairs
  induction courses with
  | nil => rfl
  | cons c rest ih =>
    obtain ⟨service, fate⟩ := c
    cases fate <;>
      simpa [Course.isPrepared, Course.registrationFailure?, Course.answer, Course.task] using ih

/-- The phases of a run report the fates of the services. -/
theorem ofPhases_result {courses : List Course} {done : List Done}
    (hservices : courses.map (·.service) = config.services)
    (h : CarriedOut (tasks (courses.map (·.prepared config))) done) :
    let answers :=
      (inTaskOrder (tasks (courses.map (·.prepared config))).length done).map (·.outcome)
    (Outcome.ofPhases config (courses.map (·.prepared config)) done).result =
      .ok (report config (settle courses answers)) := by
  intro answers
  have hpairs := inTaskOrder_settle config h
  have hcourses : (settle courses answers).map (·.prepared config) =
      courses.map (·.prepared config) := settle_prepared config courses answers
  have hlength : (settle courses answers).length = config.services.length := by
    rw [← hservices, List.length_map]
    simpa using congrArg List.length hcourses
  have hready : (tasks (courses.map (·.prepared config))).map
      (fun t => config.typesPath t.service) =
        ((settle courses answers).filter (·.isPrepared)).map
          fun c => config.typesPath c.service := by
    rw [← hcourses, tasks_prepared, List.map_map]
    rfl
  have hfailures : preparationFailures (courses.map (·.prepared config)) =
      (settle courses answers).filterMap (·.preparationFailure?) := by
    rw [← hcourses, preparationFailures_prepared]
  simp only [Outcome.ofPhases, report, hready, hfailures, hlength,
    registrationsWritten_eq config hpairs, registrationFailures_eq config hpairs]
  rfl

end Report

/-! ### Runs -/

section Run

variable {σ : Type} (fs : Filesystem (StateM σ)) (schedule : Schedule) (config : RunConfig) (s : σ)

/-- A run whose output directory is refused makes no other call. -/
theorem run_refused {e : Error} (h : (fs.createDirectories config.output s).1 = .error e) :
    ∃ s', Filesystem.Mirrors (run fs schedule config) (run fs.recorded schedule config) s
      ⟨.error e, [], [], []⟩ s' [.createDirectories config.output (.error e)] := by
  obtain ⟨answer, s₁, hroot⟩ := fs.createDirectories_mirrors config.output s
  rw [hroot.plain] at h
  subst h
  exact ⟨s₁, hroot.bind (.pure s₁ _)⟩

/-- A run that can start goes through both phases, the second in the order of the schedule. -/
theorem run_phases (h : (fs.createDirectories config.output s).1 = .ok ()) :
    ∃ (courses : List Course) (done : List Done) (s' : σ),
      let ready := tasks (courses.map (·.prepared config))
      courses.map (·.service) = config.services ∧
      CarriedOut ready done ∧
      done.map (·.number) = schedule.order ready.length ∧
      Filesystem.Mirrors (run fs schedule config) (run fs.recorded schedule config) s
        (Outcome.ofPhases config (courses.map (·.prepared config)) done) s'
        (.createDirectories config.output (.ok ()) ::
          (courses.flatMap (·.preparation config) ++ done.map (Done.call config.register))) := by
  obtain ⟨answer, s₁, hroot⟩ := fs.createDirectories_mirrors config.output s
  rw [hroot.plain] at h
  subst h
  obtain ⟨courses, s₂, hservices, hfirst⟩ := prepareAll_mirrors fs config config.services s₁
  let ready := tasks (courses.map (·.prepared config))
  obtain ⟨done, s₃, hnumbers, htasks, hsecond⟩ :=
    carryOut_mirrors fs config.register ready (schedule.order ready.length) s₂
  refine ⟨courses, done, s₃, hservices, carriedOut_of_numbers schedule hnumbers htasks,
    hnumbers.trans (filter_order schedule ready.length), ?_⟩
  have hphases := hfirst.bind
    (f := fun prepared => do
      let done ← carryOut fs config.register (tasks prepared)
        (schedule.order (tasks prepared).length)
      return Outcome.ofPhases config prepared done)
    (g := fun prepared => do
      let done ← carryOut fs.recorded config.register (tasks prepared)
        (schedule.order (tasks prepared).length)
      return Outcome.ofPhases config prepared done)
    (hsecond.bind (.pure s₃ _))
  rw [List.append_nil] at hphases
  exact hroot.bind hphases

/-- A run that can start settles the fate of every service. -/
theorem run_traced (h : (fs.createDirectories config.output s).1 = .ok ()) :
    ∃ (courses : List Course) (late : List Call) (outcome : Outcome) (s' : σ),
      courses.map (·.service) = config.services ∧
      late.Perm ((courses.filter (·.isPrepared)).map (·.registrationCall config)) ∧
      outcome.result = .ok (report config courses) ∧
      Filesystem.Mirrors (run fs schedule config) (run fs.recorded schedule config) s outcome s'
        (.createDirectories config.output (.ok ()) ::
          (courses.flatMap (·.preparation config) ++ late)) := by
  obtain ⟨courses, done, s', hservices, hcarried, -, hrun⟩ := run_phases fs schedule config s h
  let ordered := inTaskOrder (tasks (courses.map (·.prepared config))).length done
  refine ⟨settle courses (ordered.map (·.outcome)), done.map (Done.call config.register),
    Outcome.ofPhases config (courses.map (·.prepared config)) done, s', ?_, ?_, ?_, ?_⟩
  · rw [← hservices]
    exact map_settle _ fun _ _ _ => rfl
  · -- the record lists the registrations in the order of the schedule
    have hcalls : ordered.map (Done.call config.register) =
        ((settle courses (ordered.map (·.outcome))).filter (·.isPrepared)).map
          (·.registrationCall config) := by
      have hpairs := congrArg (List.map fun pair : Task × Except Error Unit =>
        Call.writeFile pair.1.path
          (Document.registrationText pair.1.service config.register) pair.2)
        (inTaskOrder_settle config hcarried)
      simp only [List.map_map, Function.comp_def, Course.task] at hpairs
      exact hpairs
    rw [← hcalls]
    exact (hcarried.inTaskOrder_perm.map _).symm
  · exact ofPhases_result config hservices hcarried
  · rw [settle_preparation]
    exact hrun

end Run

end ServiceScaffold.Generation
