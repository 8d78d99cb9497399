/-
Runs on a store in memory.

On a store in memory no directory is refused, and shared types are refused at read-only places
only, since their directory was just created.  The answer to a registration is settled before the
second phase starts: it depends on the directories and the read-only places, which no write
changes.  So the fate of every service is known from the store that the run started on, and the
schedule decides only in which order the accepted registrations are written.

* `courseOn` — the fate of a service on a store.
* `run_memory` — every run: its report, and the store it leaves; `isReadOnly_run`.
-/
import ServiceScaffold.Proofs.Generation.Schedule
import ServiceScaffold.Proofs.Generation.Trace
import ServiceScaffold.Proofs.Memory.Store

namespace ServiceScaffold.Generation

variable (config : RunConfig)

/-- The store once all directories of a run are created. -/
def withDirectories (store : Memory) : Memory :=
  store.createAll (config.output :: config.services.map config.serviceDirectory)

/-- Whether the shared types of a service can be written. -/
def isOpen (store : Memory) (service : Service) : Bool :=
  !store.isReadOnly (config.typesPath service)

/-- The services that come through the first phase. -/
def openServices (store : Memory) : List Service :=
  config.services.filter (isOpen config store)

/-- Whether the registration of a service can be written. -/
def isRegistrable (store : Memory) (service : Service) : Bool :=
  (withDirectories config store).accepts (config.registrationFile service)

/-- The shared types of a service, with their place. -/
def typesEntry (service : Service) : Path × String :=
  (config.typesPath service, Document.typesText config.types)

/-- The registration of a service, with its place. -/
def registrationEntry (service : Service) : Path × String :=
  (config.registrationFile service, Document.registrationText service config.register)

@[simp] theorem typesEntry_fst (service : Service) :
    (typesEntry config service).1 = config.typesPath service := by rw [typesEntry]

@[simp] theorem registrationEntry_fst (service : Service) :
    (registrationEntry config service).1 = config.registrationFile service := by
  rw [registrationEntry]

@[simp] theorem registrationEntry_snd (service : Service) :
    (registrationEntry config service).2 =
      Document.registrationText service config.register := by
  rw [registrationEntry]

/-- What the first phase leaves of a service on a store. -/
def preparedOn (store : Memory) (service : Service) : Prepared :=
  if isOpen config store service then
    ⟨service, true, .ok ⟨service, config.registrationFile service⟩⟩
  else ⟨service, false, .error (.filesystem (config.typesPath service) "Read-only location")⟩

/-- A service with its fate on a store. -/
def courseOn (store : Memory) (service : Service) : Course where
  service := service
  fate :=
    if isOpen config store service then
      .ofAnswer ((withDirectories config store).answer (config.registrationFile service))
    else .noTypes (.filesystem (config.typesPath service) "Read-only location")

@[simp] theorem courseOn_service (store : Memory) (service : Service) :
    (courseOn config store service).service = service := by
  rw [courseOn]

theorem prepared_courseOn (store : Memory) (service : Service) :
    (courseOn config store service).prepared config = preparedOn config store service := by
  rw [courseOn, preparedOn]
  by_cases hopen : isOpen config store service = true
  · simp only [if_pos hopen]
    cases (withDirectories config store).answer (config.registrationFile service) <;> rfl
  · simp only [if_neg hopen]
    rfl

theorem isPrepared_courseOn (store : Memory) (service : Service) :
    (courseOn config store service).isPrepared = isOpen config store service := by
  rw [courseOn]
  by_cases hopen : isOpen config store service = true
  · simp only [if_pos hopen, isPrepared_ofAnswer]
    exact hopen.symm
  · simp only [if_neg hopen]
    exact (Bool.eq_false_iff.mpr hopen).symm

theorem answer_courseOn {store : Memory} {service : Service}
    (hopen : isOpen config store service = true) :
    (courseOn config store service).answer =
      (withDirectories config store).answer (config.registrationFile service) := by
  rw [courseOn]
  simp only [if_pos hopen, Fate.answer_ofAnswer]

/-! ### The first phase -/

/-- The shared types are refused at read-only places only. -/
theorem answer_typesPath (store : Memory) (service : Service) :
    (store.createDirectories (config.serviceDirectory service)).answer
        (config.typesPath service) =
      if isOpen config store service then .ok ()
      else .error (.filesystem (config.typesPath service) "Read-only location") := by
  have hdirectory := config.serviceDirectory_components_ne_nil service
  have hcreated : (config.serviceDirectory service).components ∈
      (store.createDirectories (config.serviceDirectory service)).directories :=
    Memory.mem_createDirectories.mpr (.inr ⟨hdirectory, List.prefix_refl _⟩)
  rw [Memory.answer_of_parent hdirectory (config.components_typesPath service) hcreated,
    Memory.isReadOnly_createDirectories, isOpen]
  cases store.isReadOnly (config.typesPath service) <;> rfl

/-- One service in the first phase. -/
theorem prepare_memory (store : Memory) (service : Service) :
    prepare Memory.filesystem config service store =
      (preparedOn config store service,
        (store.createDirectories (config.serviceDirectory service)).record
          (if isOpen config store service then [typesEntry config service] else [])) := by
  have hpath := config.registrationPath_eq service
  have hwrite := Memory.writeFile_eq (store.createDirectories (config.serviceDirectory service))
    (config.typesPath service) (Document.typesText config.types)
  rw [Memory.accepts, answer_typesPath] at hwrite
  have hcreate : Memory.filesystem.createDirectories (config.serviceDirectory service) store =
      (.ok (), store.createDirectories (config.serviceDirectory service)) := rfl
  unfold prepare
  simp only [writeTypes_eq, hpath]
  rw [Filesystem.bind_apply hcreate]
  dsimp only
  rw [Filesystem.bind_apply hwrite, preparedOn]
  by_cases hopen : isOpen config store service = true
  · simp only [if_pos hopen]
    rfl
  · simp only [if_neg hopen]
    rfl

/-- The first phase creates the directories of all services, and writes the shared types of those
that are open. -/
theorem prepareAll_memory (services : List Service) (store : Memory) :
    prepareAll Memory.filesystem config services store =
      (services.map (preparedOn config store),
        (store.createAll (services.map config.serviceDirectory)).record
          ((services.filter (isOpen config store)).map (typesEntry config))) := by
  induction services generalizing store with
  | nil => rfl
  | cons service rest ih =>
    rw [prepareAll, Filesystem.bind_apply (prepare_memory config store service),
      Filesystem.bind_apply (ih _)]
    -- neither phase depends on the files and directories that the first service added
    have hopen (s : Memory) (entries : List (Path × String)) (p : Path) :
        isOpen config ((s.createDirectories p).record entries) = isOpen config s := rfl
    have hprepared (s : Memory) (entries : List (Path × String)) (p : Path) :
        preparedOn config ((s.createDirectories p).record entries) = preparedOn config s := rfl
    rw [hopen, hprepared, Memory.record_createAll, Memory.record_record]
    simp only [List.map_cons, Memory.createAll_cons, List.filter_cons]
    split <;> rfl

theorem tasks_preparedOn (store : Memory) (services : List Service) :
    tasks (services.map (preparedOn config store)) =
      (services.filter (isOpen config store)).map fun s => ⟨s, config.registrationFile s⟩ := by
  induction services with
  | nil => rfl
  | cons service rest ih =>
    rw [List.map_cons, List.filter_cons]
    by_cases hopen : isOpen config store service = true
    · rw [if_pos hopen, List.map_cons, ← ih, preparedOn, if_pos hopen]
      rfl
    · rw [if_neg hopen, ← ih, preparedOn, if_neg hopen]
      rfl

/-! ### The second phase -/

/-- What came of a task on a store. -/
def doneOn (store : Memory) (number : Nat) (task : Task) : Done :=
  ⟨number, task, store.answer task.path⟩

/-- The second phase gives each task its answer, and writes the accepted registrations in
order. -/
theorem carryOut_memory (options : RegisterOptions) (tasks : List Task) (order : List Nat)
    (store : Memory) :
    carryOut Memory.filesystem options tasks order store =
      (order.filterMap (fun number => tasks[number]?.map (doneOn store number)),
        store.record (((order.filterMap fun number => tasks[number]?).filter fun task =>
          store.accepts task.path).map fun task =>
            (task.path, Document.registrationText task.service options))) := by
  induction order generalizing store with
  | nil => rfl
  | cons number rest ih =>
    cases htask : tasks[number]? with
    | none =>
      have hskip : carryOut Memory.filesystem options tasks (number :: rest) =
          carryOut Memory.filesystem options tasks rest := by
        simp only [carryOut, htask]
      rw [hskip, ih]
      simp only [List.filterMap_cons, htask, Option.map_none]
    | some task =>
      have hrun : carryOut Memory.filesystem options tasks (number :: rest) =
          (do
            let outcome ← Memory.filesystem.writeFile task.path
              (Document.registrationText task.service options)
            let others ← carryOut Memory.filesystem options tasks rest
            return ⟨number, task, outcome⟩ :: others) := by
        simp only [carryOut, htask, writeRegistration_eq]
      -- this write changes files only, and no later answer depends on them
      rw [hrun, Filesystem.bind_apply (Memory.writeFile_eq _ _ _), Filesystem.bind_apply (ih _)]
      simp only [List.filterMap_cons, htask, Option.map_some, List.filter_cons]
      by_cases haccepts : store.accepts task.path = true
      · simp only [if_pos haccepts, List.map_cons]
        rw [Memory.record_cons store]
        rfl
      · simp only [if_neg haccepts]
        rfl

/-- Every outcome of the second phase is the answer of the store that it started on. -/
theorem outcome_carryOut {options : RegisterOptions} {tasks : List Task} {order : List Nat}
    {store : Memory} {d : Done}
    (h : d ∈ (carryOut Memory.filesystem options tasks order store).1) :
    d.outcome = store.answer d.task.path := by
  rw [carryOut_memory] at h
  obtain ⟨number, -, hdone⟩ := List.mem_filterMap.mp h
  obtain ⟨task, -, rfl⟩ := Option.map_eq_some_iff.mp hdone
  rfl

/-! ### Runs -/

/-- The shared types that a run writes. -/
def typesEntries (store : Memory) : List (Path × String) :=
  (openServices config store).map (typesEntry config)

/-- The registrations that a run writes, in the order of the schedule. -/
def registrationEntries (schedule : Schedule) (store : Memory) : List (Path × String) :=
  ((schedule.arrange (openServices config store)).filter (isRegistrable config store)).map
    (registrationEntry config)

theorem exists_of_mem_typesEntries {store : Memory} {entry : Path × String}
    (h : entry ∈ typesEntries config store) :
    ∃ t ∈ config.services, entry = typesEntry config t := by
  obtain ⟨t, ht, rfl⟩ := List.mem_map.mp h
  exact ⟨t, (List.mem_filter.mp ht).1, rfl⟩

theorem exists_of_mem_registrationEntries {schedule : Schedule} {store : Memory}
    {entry : Path × String} (h : entry ∈ registrationEntries config schedule store) :
    ∃ t ∈ config.services, entry = registrationEntry config t := by
  obtain ⟨t, ht, rfl⟩ := List.mem_map.mp h
  have hopen := (schedule.arrange_perm _).mem_iff.mp (List.mem_filter.mp ht).1
  exact ⟨t, (List.mem_filter.mp hopen).1, rfl⟩

/-- The tasks that the first phase leaves on a store. -/
def tasksOn (store : Memory) : List Task :=
  tasks (prepareAll Memory.filesystem config config.services
    (store.createDirectories config.output)).1

theorem tasksOn_eq (store : Memory) :
    tasksOn config store =
      (openServices config store).map fun s => ⟨s, config.registrationFile s⟩ := by
  rw [tasksOn, prepareAll_memory]
  exact tasks_preparedOn config store config.services

/-- The tasks whose registrations are accepted, in the order of the schedule. -/
theorem registrationEntries_eq (schedule : Schedule) (store : Memory)
    (entries : List (Path × String)) :
    registrationEntries config schedule store =
      ((schedule.arrange (tasksOn config store)).filter fun task =>
        ((withDirectories config store).record entries).accepts task.path).map fun task =>
          (task.path, Document.registrationText task.service config.register) := by
  rw [tasksOn_eq, Schedule.arrange_map, List.filter_map, List.map_map, registrationEntries]
  simp only [Memory.accepts_record, Function.comp_def]
  rfl

theorem run_eq (schedule : Schedule) (store : Memory) :
    let prepared := (withDirectories config store).record (typesEntries config store)
    run Memory.filesystem schedule config store =
      (Outcome.ofPhases config (config.services.map (preparedOn config store))
          (carryOut Memory.filesystem config.register (tasksOn config store)
            (schedule.order (tasksOn config store).length) prepared).1,
        (withDirectories config store).record
          (typesEntries config store ++ registrationEntries config schedule store)) := by
  intro prepared
  have hcreate : Memory.filesystem.createDirectories config.output store =
      (.ok (), store.createDirectories config.output) := rfl
  have hfirst : prepareAll Memory.filesystem config config.services
      (store.createDirectories config.output) =
        (config.services.map (preparedOn config store), prepared) :=
    prepareAll_memory config config.services (store.createDirectories config.output)
  have htasks : tasks (config.services.map (preparedOn config store)) = tasksOn config store := by
    rw [tasksOn, hfirst]
  have hsecond := carryOut_memory config.register (tasksOn config store)
    (schedule.order (tasksOn config store).length) prepared
  unfold run
  rw [Filesystem.bind_apply hcreate]
  dsimp only
  rw [Filesystem.bind_apply hfirst, htasks, Filesystem.bind_apply hsecond,
    ← Memory.record_record,
    registrationEntries_eq config schedule store (typesEntries config store), hsecond]
  rfl

/-- The outcomes in task order are the answers for the open services. -/
theorem outcomes_eq (schedule : Schedule) (store : Memory) (entries : List (Path × String)) :
    (inTaskOrder (tasksOn config store).length
      (carryOut Memory.filesystem config.register (tasksOn config store)
        (schedule.order (tasksOn config store).length)
        ((withDirectories config store).record entries)).1).map (·.outcome) =
      ((config.services.map (courseOn config store)).filter (·.isPrepared)).map (·.answer) := by
  have hcarried := carriedOut_carryOut Memory.filesystem config.register schedule
    (tasksOn config store) ((withDirectories config store).record entries)
  have hanswers : (inTaskOrder (tasksOn config store).length
      (carryOut Memory.filesystem config.register (tasksOn config store)
        (schedule.order (tasksOn config store).length)
        ((withDirectories config store).record entries)).1).map (·.outcome) =
      (tasksOn config store).map fun task => (withDirectories config store).answer task.path := by
    conv_rhs => rw [← hcarried.inTaskOrder_task, List.map_map]
    refine List.map_congr_left fun d hd => ?_
    have hdone := outcome_carryOut (hcarried.inTaskOrder_perm.mem_iff.mp hd)
    rwa [Memory.answer_record] at hdone
  have hprepared : (config.services.map (courseOn config store)).filter (·.isPrepared) =
      (openServices config store).map (courseOn config store) := by
    rw [List.filter_map, openServices]
    congr 1
    exact List.filter_congr fun service _ => isPrepared_courseOn config store service
  rw [hanswers, hprepared, tasksOn_eq, List.map_map, List.map_map]
  refine List.map_congr_left fun service hservice => ?_
  rw [Function.comp_apply, Function.comp_apply,
    answer_courseOn config (List.mem_filter.mp hservice).2]

/-- Every run on a store in memory ends in a report, and the schedule decides only in which order
the accepted registrations are written. -/
theorem run_memory (schedule : Schedule) (store : Memory) :
    (run Memory.filesystem schedule config store).1.result =
        .ok (report config (config.services.map (courseOn config store))) ∧
      (run Memory.filesystem schedule config store).2 =
        (withDirectories config store).record
          (typesEntries config store ++ registrationEntries config schedule store) := by
  have hrun := run_eq config schedule store
  refine ⟨?_, by rw [hrun]⟩
  have hprepared : (config.services.map (courseOn config store)).map (·.prepared config) =
      config.services.map (preparedOn config store) := by
    rw [List.map_map]
    exact List.map_congr_left fun service _ => prepared_courseOn config store service
  have htasks : tasks ((config.services.map (courseOn config store)).map (·.prepared config)) =
      tasksOn config store := by
    rw [hprepared, tasks_preparedOn, tasksOn_eq]
    rfl
  have hservices : (config.services.map (courseOn config store)).map (·.service) =
      config.services := by
    simp only [List.map_map, Function.comp_def, courseOn_service, List.map_id']
  have hcarried := carriedOut_carryOut Memory.filesystem config.register schedule
    (tasksOn config store) ((withDirectories config store).record (typesEntries config store))
  rw [← htasks] at hcarried
  have hresult := ofPhases_result config hservices hcarried
  rw [htasks, hprepared, outcomes_eq] at hresult
  dsimp only at hresult
  rw [settle_self] at hresult
  rw [hrun]
  exact hresult

/-- No run makes a place read-only. -/
theorem isReadOnly_run (schedule : Schedule) (store : Memory) :
    (run Memory.filesystem schedule config store).2.isReadOnly = store.isReadOnly := by
  funext p
  rw [(run_memory config schedule store).2]
  exact Memory.isReadOnly_createAll store _ p

end ServiceScaffold.Generation
