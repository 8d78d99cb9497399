/-
What an observer is told of a run.

The events of a run follow the fates of its services.  In the first phase a service either failed or
has its shared types; in the second, one that has them either failed or has its registration.  So
what the observer has heard, put together, is the report: the files that were written and the
failures, each told once.

* `Course.earlyEvents`, `Course.lateEvents` — what is told of a service in either phase.
* `arrange_inTaskOrder` — the second phase tells of the tasks in the order of the schedule.
* `run_told` — every run, with all its events.
* `run_events` — the events of a run against its report.
-/
import ServiceScaffold.Proofs.Generation.Report
import ServiceScaffold.Proofs.Generation.Schedule

namespace ServiceScaffold

/-- The file that an event tells of. -/
def Event.file? : Event → Option PlannedFile
  | .written service kind path => some ⟨service, kind, path⟩
  | .start _ | .failed _ _ | .finish => none

/-- The failure that an event tells of. -/
def Event.failure? : Event → Option ServiceFailure
  | .failed service error => some ⟨service, error⟩
  | .start _ | .written _ _ _ | .finish => none

namespace Generation

/-! ### Events of one service -/

namespace Course

variable (config : RunConfig)

/-- What is told of a service in the first phase. -/
def earlyEvents (c : Course) : List Event :=
  match c.fate with
  | .noDirectory e | .noTypes e => [.failed c.service.name e]
  | .noRegistration _ | .complete =>
    [.written c.service.name .sharedTypes (config.typesPath c.service)]

/-- What is told of a service in the second phase. -/
def lateEvents (c : Course) : List Event :=
  match c.fate with
  | .noDirectory _ | .noTypes _ => []
  | .noRegistration e => [.failed c.service.name e]
  | .complete => [.written c.service.name .registration (config.registrationFile c.service)]

/-- The shared types of a service as a planned file. -/
def typesFile (c : Course) : PlannedFile :=
  ⟨c.service.name, .sharedTypes, config.typesPath c.service⟩

/-- The registration of a service as a planned file. -/
def registrationFile (c : Course) : PlannedFile :=
  ⟨c.service.name, .registration, config.registrationFile c.service⟩

theorem events_prepared (c : Course) : (c.prepared config).events config = c.earlyEvents config := by
  obtain ⟨service, fate⟩ := c
  cases fate <;> rfl

/-- A service fails in either phase, or has both its files. -/
theorem events_cases (c : Course) :
    (∃ e, c.earlyEvents config = [.failed c.service.name e] ∧ c.lateEvents config = []) ∨
    (∃ e, c.earlyEvents config =
          [.written c.service.name .sharedTypes (config.typesPath c.service)] ∧
        c.lateEvents config = [.failed c.service.name e]) ∨
    (c.earlyEvents config =
          [.written c.service.name .sharedTypes (config.typesPath c.service)] ∧
        c.lateEvents config =
          [.written c.service.name .registration (config.registrationFile c.service)]) := by
  obtain ⟨service, fate⟩ := c
  cases fate with
  | noDirectory e | noTypes e => exact .inl ⟨e, rfl, rfl⟩
  | noRegistration e => exact .inr (.inl ⟨e, rfl, rfl⟩)
  | complete => exact .inr (.inr ⟨rfl, rfl⟩)

/-- No service makes the run start or end. -/
theorem finish_not_mem_events (c : Course) :
    .finish ∉ c.earlyEvents config ∧ .finish ∉ c.lateEvents config := by
  obtain ⟨service, fate⟩ := c
  cases fate <;> simp [earlyEvents, lateEvents]

end Course

/-! ### Events of all services -/

section Told

variable (config : RunConfig) (courses : List Course)

theorem file?_earlyEvents :
    (courses.flatMap (·.earlyEvents config)).filterMap Event.file? =
      (courses.filter (·.isPrepared)).map (·.typesFile config) := by
  induction courses with
  | nil => rfl
  | cons c rest ih =>
    obtain ⟨service, fate⟩ := c
    rw [List.flatMap_cons, List.filterMap_append, ih]
    cases fate <;> rfl

theorem file?_lateEvents :
    (courses.flatMap (·.lateEvents config)).filterMap Event.file? =
      (courses.filter (·.isComplete)).map (·.registrationFile config) := by
  induction courses with
  | nil => rfl
  | cons c rest ih =>
    obtain ⟨service, fate⟩ := c
    rw [List.flatMap_cons, List.filterMap_append, ih]
    cases fate <;> rfl

theorem failure?_earlyEvents :
    (courses.flatMap (·.earlyEvents config)).filterMap Event.failure? =
      courses.filterMap (·.preparationFailure?) := by
  induction courses with
  | nil => rfl
  | cons c rest ih =>
    obtain ⟨service, fate⟩ := c
    rw [List.flatMap_cons, List.filterMap_append, ih]
    cases fate <;> rfl

theorem failure?_lateEvents :
    (courses.flatMap (·.lateEvents config)).filterMap Event.failure? =
      courses.filterMap (·.registrationFailure?) := by
  induction courses with
  | nil => rfl
  | cons c rest ih =>
    obtain ⟨service, fate⟩ := c
    rw [List.flatMap_cons, List.filterMap_append, ih]
    cases fate <;> rfl

/-- The registrations of prepared services, told one by one. -/
theorem map_event_prepared :
    ((courses.filter (·.isPrepared)).map fun c => (⟨0, c.task config, c.answer⟩ : Done).event) =
      courses.flatMap (·.lateEvents config) := by
  induction courses with
  | nil => rfl
  | cons c rest ih =>
    obtain ⟨service, fate⟩ := c
    rw [List.flatMap_cons, ← ih, List.filter_cons, Course.lateEvents]
    cases fate <;> simp [Course.isPrepared, Course.task, Course.answer, Done.event]

end Told

/-! ### The order of the second phase -/

/-- Carried out in the order of a schedule, the tasks are those in task order, so arranged. -/
theorem arrange_inTaskOrder {tasks : List Task} {done : List Done} (schedule : Schedule)
    (h : CarriedOut tasks done) (hnumbers : done.map (·.number) = schedule.order tasks.length) :
    schedule.arrange (inTaskOrder tasks.length done) = done := by
  have hcount : (inTaskOrder tasks.length done).length = tasks.length := by
    simpa using congrArg List.length h.inTaskOrder_number
  rw [Schedule.arrange, hcount, ← hnumbers, List.filterMap_map]
  refine Eq.trans (List.filterMap_congr fun d hd => ?_) List.filterMap_some
  -- the task of number `i` is the one at place `i`
  obtain ⟨i, hi, rfl⟩ := List.mem_iff_getElem.mp (h.inTaskOrder_perm.mem_iff.mpr hd)
  have hnumber : (inTaskOrder tasks.length done)[i].number = i := by
    have hplace := congrArg (fun numbers => numbers[i]?) h.inTaskOrder_number
    rw [hcount] at hi
    simpa [hcount, hi] using hplace
  rw [Function.comp_apply, hnumber, List.getElem?_eq_getElem hi]

/-! ### Runs -/

/-- Every run that can start tells of each service what its fate is. -/
theorem run_told {σ : Type} (fs : Filesystem (StateM σ)) (schedule : Schedule) (config : RunConfig)
    (s : σ) (h : (fs.createDirectories config.output s).1 = .ok ()) :
    ∃ courses : List Course,
      courses.map (·.service) = config.services ∧
      (run fs schedule config s).1.result = .ok (report config courses) ∧
      (run fs schedule config s).1.events =
        .start (2 * config.services.length) ::
          (courses.flatMap (·.earlyEvents config) ++
            schedule.arrange (courses.flatMap (·.lateEvents config)) ++ [.finish]) := by
  obtain ⟨courses, done, s', hservices, hcarried, hnumbers, hrun⟩ :=
    run_phases fs schedule config s h
  let ordered := inTaskOrder (tasks (courses.map (·.prepared config))).length done
  have hresult := ofPhases_result config hservices hcarried
  have hprepared := settle_prepared config courses (ordered.map (·.outcome))
  refine ⟨settle courses (ordered.map (·.outcome)), ?_, ?_, ?_⟩
  · rw [← hservices]
    exact map_settle _ fun _ _ _ => rfl
  · rw [hrun.plain]
    exact hresult
  · have hearly : (courses.map (·.prepared config)).flatMap (·.events config) =
        (settle courses (ordered.map (·.outcome))).flatMap (·.earlyEvents config) := by
      rw [← hprepared, List.flatMap_map]
      simp only [Course.events_prepared]
    have hlate : done.map Done.event =
        schedule.arrange
          ((settle courses (ordered.map (·.outcome))).flatMap (·.lateEvents config)) := by
      have hpairs := congrArg (List.map fun pair : Task × Except Error Unit =>
        (⟨0, pair.1, pair.2⟩ : Done).event) (inTaskOrder_settle config hcarried)
      rw [List.map_map, List.map_map] at hpairs
      rw [← map_event_prepared, ← arrange_inTaskOrder schedule hcarried hnumbers,
        ← Schedule.arrange_map]
      exact congrArg schedule.arrange hpairs
    rw [hrun.plain, Outcome.events, Outcome.ofPhases, hearly, hlate]
    simp

/-- What is told between the start and the end, the second phase in any order. -/
theorem filterMap_events {α : Type} {f : Event → Option α} (hstart : ∀ files, f (.start files) = none)
    (hfinish : f .finish = none) (files : Nat) (early late : List Event) (schedule : Schedule) :
    ((.start files :: (early ++ schedule.arrange late ++ [.finish])).filterMap f).Perm
      (early.filterMap f ++ late.filterMap f) := by
  have hends : (.start files :: (early ++ schedule.arrange late ++ [.finish])).filterMap f =
      early.filterMap f ++ (schedule.arrange late).filterMap f := by
    simp [hstart, hfinish]
  rw [hends]
  exact ((schedule.arrange_perm late).filterMap f).append_left _

/-- The events of a run against its report, on any filesystem and in any order of the tasks. -/
theorem run_events {σ : Type} (fs : Filesystem (StateM σ)) (s : σ) (schedule : Schedule)
    (config : RunConfig) :
    let n := config.services.length
    let service : Fin n → Service := config.services.get
    let outcome := (run fs schedule config s).1
    match outcome.result with
    | .error e => (fs.createDirectories config.output s).1 = .error e ∧ outcome.events = []
    | .ok report =>
      ∃ (plan : List PlannedFile) (register : Fin n → Path) (early late : Fin n → List Event)
        (pool : List Event) (types registrations : List PlannedFile),
        config.plan = .ok plan ∧
        (∀ i, config.registrationPath (service i) = .ok (register i)) ∧
        -- the whole sequence
        outcome.events =
          .start (2 * n) :: ((List.finRange n).flatMap early ++ pool ++ [.finish]) ∧
        .finish ∉ (List.finRange n).flatMap early ++ pool ∧
        pool = schedule.arrange ((List.finRange n).flatMap late) ∧
        pool.Perm ((List.finRange n).flatMap late) ∧
        -- what is told of each service
        (∀ i,
          (∃ e, early i = [.failed (service i).name e] ∧ late i = []) ∨
          (∃ e, early i =
                [.written (service i).name .sharedTypes (config.typesPath (service i))] ∧
              late i = [.failed (service i).name e]) ∨
          (early i = [.written (service i).name .sharedTypes (config.typesPath (service i))] ∧
              late i = [.written (service i).name .registration (register i)])) ∧
        -- what is told put together
        types.Sublist (plan.filter fun file => file.kind = .sharedTypes) ∧
        registrations.Sublist (plan.filter fun file => file.kind = .registration) ∧
        (types ++ registrations).map (·.path) = report.written ∧
        (outcome.events.filterMap Event.file?).Perm (types ++ registrations) ∧
        (outcome.events.filterMap Event.failure?).Perm report.failures := by
  intro n service outcome
  cases hroot : (fs.createDirectories config.output s).1 with
  | error e =>
    obtain ⟨s', hrun⟩ := run_refused fs schedule config s hroot
    have houtcome : outcome = ⟨.error e, [], [], []⟩ := congrArg Prod.fst hrun.plain
    rw [houtcome]
    exact ⟨rfl, rfl⟩
  | ok _ =>
    obtain ⟨courses, hservices, hresult, hevents⟩ := run_told fs schedule config s hroot
    obtain ⟨course, hcourses, hcourse⟩ := exists_numbered hservices
    have hflat (f : Course → List Event) :
        courses.flatMap f = (List.finRange n).flatMap fun i => f (course i) := by
      rw [hcourses, List.flatMap_map]
    obtain ⟨htypes, hregistrations⟩ := config.filter_plan config.plan_eq
    rw [show outcome.result = .ok (report config courses) from hresult]
    refine ⟨_, fun i => config.registrationFile (service i), fun i => (course i).earlyEvents config,
      fun i => (course i).lateEvents config, _,
      (courses.filter (·.isPrepared)).map (·.typesFile config),
      (courses.filter (·.isComplete)).map (·.registrationFile config), config.plan_eq,
      fun i => config.registrationPath_eq _, ?_, ?_, rfl, schedule.arrange_perm _, ?_, ?_, ?_, ?_,
      ?_, ?_⟩
    · rw [← hflat, ← hflat]
      exact hevents
    · rw [List.mem_append, (schedule.arrange_perm _).mem_iff, List.mem_flatMap, List.mem_flatMap]
      rintro (⟨i, -, hi⟩ | ⟨i, -, hi⟩)
      · exact ((course i).finish_not_mem_events config).1 hi
      · exact ((course i).finish_not_mem_events config).2 hi
    · intro i
      have hcases := (course i).events_cases config
      rw [hcourse i] at hcases
      exact hcases
    · rw [htypes, ← hservices, List.map_map]
      exact List.filter_sublist.map _
    · rw [hregistrations, ← hservices, List.map_map]
      exact List.filter_sublist.map _
    · simp only [report, List.map_append, List.map_map, Function.comp_def, Course.typesFile,
        Course.registrationFile]
    · have hfiles := filterMap_events (fun _ => rfl) rfl (2 * config.services.length)
        (courses.flatMap (·.earlyEvents config)) (courses.flatMap (·.lateEvents config)) schedule
        (f := Event.file?)
      rw [← hevents, file?_earlyEvents, file?_lateEvents] at hfiles
      exact hfiles
    · have hfailures := filterMap_events (fun _ => rfl) rfl (2 * config.services.length)
        (courses.flatMap (·.earlyEvents config)) (courses.flatMap (·.lateEvents config)) schedule
        (f := Event.failure?)
      rw [← hevents, failure?_earlyEvents, failure?_lateEvents] at hfailures
      exact hfailures

end Generation

end ServiceScaffold
