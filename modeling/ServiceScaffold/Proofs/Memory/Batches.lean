/-
Runs that follow each other.

Two lists of services can be given to one run or to two, the second on the store that the first one
left.  When no name holds a slash, every registration lies in the directory that was created for its
service, so that only the read-only places decide what becomes of a service, and these no run
changes.  The one run writes the shared types of the second list before the registrations of the
first, but the two have no place in common; so both ways end in the same store, and the report of
the one run is put together from the reports of the two, phase by phase.

* `fateOn`, `courseOn_eq` — the fate of a service without a slash in its name.
* `Report.typesFiles`, `Report.registrationFiles` — the parts of a report, by the files that they
  are about.
* `Memory.record_swap` — writes to different places in either order.
* `run_append` — one run and two.
-/
import ServiceScaffold.Proofs.Memory.Content
import ServiceScaffold.Proofs.Memory.Schedules

namespace ServiceScaffold

/-! ### Parts of a run -/

/-- A run with other services. -/
def RunConfig.withServices (config : RunConfig) (services : List Service) : RunConfig :=
  { config with services := services }

/-- Whether a path ends in the name of the files of shared types. -/
def Path.isTypesFile (p : Path) : Bool :=
  p.components.getLast? == some (.normal Document.typesFileName)

/-- Whether a file of shared types was refused. -/
def ServiceFailure.isOfTypes (failure : ServiceFailure) : Bool :=
  match failure.error with
  | .filesystem p _ => p.isTypesFile
  | _ => false

namespace Report

variable (r : Report)

/-- The files of shared types that were written. -/
def typesFiles : List Path :=
  r.written.filter Path.isTypesFile

/-- The other files that were written. -/
def registrationFiles : List Path :=
  r.written.filter fun p => !p.isTypesFile

/-- The failures at files of shared types. -/
def typesFailures : List ServiceFailure :=
  r.failures.filter ServiceFailure.isOfTypes

/-- The other failures. -/
def registrationFailures : List ServiceFailure :=
  r.failures.filter fun failure => !failure.isOfTypes

end Report

namespace RunConfig

variable (config : RunConfig)

theorem isTypesFile_typesPath (s : Service) : (config.typesPath s).isTypesFile = true := by
  rw [Path.isTypesFile, components_typesPath, List.getLast?_concat, beq_self_eq_true]

theorem isTypesFile_registrationFile {s : Service} (h : '/' ∉ s.name.toList) :
    (config.registrationFile s).isTypesFile = false := by
  rw [Path.isTypesFile, components_registrationFile config h, List.getLast?_concat,
    beq_eq_false_iff_ne]
  intro heq
  rw [Option.some.injEq, Component.normal.injEq] at heq
  exact registrationName_ne_typesFileName s heq

end RunConfig

/-! ### Writes to different places -/

namespace Memory

/-- No entry of the one list has the place of an entry of the other. -/
def Apart (first second : List (Path × String)) : Prop :=
  ∀ entry ∈ first, ∀ other ∈ second, ¬ entry.1.same other.1 = true

variable {first second : List (Path × String)}

theorem lastContent?_swap (h : Apart first second) (p : Path) :
    lastContent? (first ++ second) p = lastContent? (second ++ first) p := by
  rw [lastContent?_append, lastContent?_append]
  by_cases hfirst : ∃ entry ∈ first, entry.1.same p = true
  · obtain ⟨entry, hentry, hsame⟩ := hfirst
    have hnone : lastContent? second p = none := by
      refine lastContent?_eq_none fun other hother hplace => h entry hentry other hother ?_
      exact Path.same_trans hsame (Path.same_symm (Path.same_iff.mpr hplace))
    rw [hnone, Option.none_or, Option.or_none]
  · have hnone : lastContent? first p = none := by
      refine lastContent?_eq_none fun entry hentry hplace => ?_
      exact hfirst ⟨entry, hentry, Path.same_iff.mpr hplace⟩
    rw [hnone, Option.none_or, Option.or_none]

/-- The same is read after either order, also when more is written later. -/
theorem read?_record_swap (store : Memory) (h : Apart first second)
    (late : List (Path × String)) (p : Path) :
    (((store.record second).record first).record late).read? p =
      (((store.record first).record second).record late).read? p := by
  rw [read?_record _ late, read?_record _ late, record_record, record_record, read?_record store,
    read?_record store, lastContent?_swap h]

theorem record_swap_singleton {store : Memory} (hdistinct : Distinct store.files)
    (entry : Path × String) (h : ∀ other ∈ second, ¬ entry.1.same other.1 = true) :
    ((store.record [entry]).record second).files.Perm
      ((store.record second).record [entry]).files := by
  induction second generalizing store with
  | nil => exact List.Perm.refl _
  | cons other rest ih =>
    obtain ⟨hother, hrest⟩ := List.forall_mem_cons.mp h
    have hne : ¬ other.1.same entry.1 = true := fun hsame => hother (Path.same_symm hsame)
    have hcomm : ((store.record [entry]).record [other]).files.Perm
        ((store.record [other]).record [entry]).files :=
      put_comm hne other.2 entry.2 store.files
    have hdistinct' := record_distinct (record_distinct hdistinct [entry]) [other]
    rw [record_cons _ other rest, record_cons store other rest]
    exact (record_perm hdistinct' hcomm rest).trans (ih (record_distinct hdistinct [other]) hrest)

/-- Lists of entries without a place in common may be written in either order. -/
theorem record_swap {store : Memory} (hdistinct : Distinct store.files)
    (h : Apart first second) :
    ((store.record first).record second).files.Perm
      ((store.record second).record first).files := by
  induction first generalizing store with
  | nil => exact List.Perm.refl _
  | cons entry rest ih =>
    obtain ⟨hentry, hrest⟩ := List.forall_mem_cons.mp h
    have hswapped := record_swap_singleton hdistinct entry hentry
    have hdistinct' := record_distinct (record_distinct hdistinct [entry]) second
    rw [record_cons store entry rest, record_cons (store.record second) entry rest]
    exact (ih (record_distinct hdistinct [entry]) hrest).trans
      (record_perm hdistinct' hswapped rest)

end Memory

namespace Generation

variable (config : RunConfig)

/-! ### Fates -/

/-- The fate of a service whose registration lies in its directory: the read-only places decide. -/
def fateOn (store : Memory) (s : Service) : Fate :=
  if store.isReadOnly (config.typesPath s) then
    .noTypes (.filesystem (config.typesPath s) "Read-only location")
  else if store.isReadOnly (config.registrationFile s) then
    .noRegistration (.filesystem (config.registrationFile s) "Read-only location")
  else .complete

/-- The courses of services, each with its fate on a store. -/
def directCourses (store : Memory) (services : List Service) : List Course :=
  services.map fun s => ⟨s, fateOn config store s⟩

theorem courseOn_eq (store : Memory) {s : Service} (hs : s ∈ config.services)
    (hname : '/' ∉ s.name.toList) : courseOn config store s = ⟨s, fateOn config store s⟩ := by
  have hanswer : (withDirectories config store).answer (config.registrationFile s) =
      if store.isReadOnly (config.registrationFile s) then
        .error (.filesystem (config.registrationFile s) "Read-only location")
      else .ok () := by
    rw [Memory.answer_of_parent (config.serviceDirectory_components_ne_nil s)
      (config.components_registrationFile hname)
      (serviceDirectory_mem_withDirectories config store hs), withDirectories,
      Memory.isReadOnly_createAll]
  rw [courseOn, hanswer, fateOn, isOpen]
  cases store.isReadOnly (config.typesPath s) with
  | true => rfl
  | false => cases store.isReadOnly (config.registrationFile s) <;> rfl

theorem run_direct (store : Memory) (hnames : ∀ s ∈ config.services, '/' ∉ s.name.toList)
    (schedule : Schedule) :
    (run Memory.filesystem schedule config store).1.result =
      .ok (report config (directCourses config store config.services)) := by
  rw [(run_memory config schedule store).1, directCourses]
  congr 2
  exact List.map_congr_left fun s hs => courseOn_eq config store hs (hnames s hs)

/-! ### The parts of a report -/

theorem filter_append_of_forall {α : Type} {holds : α → Bool} {l m : List α}
    (hl : ∀ a ∈ l, holds a = true) (hm : ∀ a ∈ m, holds a = false) :
    (l ++ m).filter holds = l ∧ ((l ++ m).filter fun a => !holds a) = m := by
  constructor
  · have hnone : m.filter holds = [] := by
      refine List.filter_eq_nil_iff.mpr fun a ha => ?_
      rw [hm a ha]
      exact Bool.false_ne_true
    rw [List.filter_append, List.filter_eq_self.mpr hl, hnone, List.append_nil]
  · have hnone : (l.filter fun a => !holds a) = [] := by
      refine List.filter_eq_nil_iff.mpr fun a ha => ?_
      rw [hl a ha]
      exact Bool.false_ne_true
    have hall : (m.filter fun a => !holds a) = m := by
      refine List.filter_eq_self.mpr fun a ha => ?_
      rw [hm a ha]
      rfl
    rw [List.filter_append, hnone, hall, List.nil_append]

section Parts

variable (store : Memory) {services : List Service}
  (hnames : ∀ s ∈ services, '/' ∉ s.name.toList)
include hnames

/-- The files of a report by kind are its files by phase. -/
theorem files_report :
    let courses := directCourses config store services
    (report config courses).typesFiles =
        (courses.filter (·.isPrepared)).map (fun c => config.typesPath c.service) ∧
      (report config courses).registrationFiles =
        (courses.filter (·.isComplete)).map fun c => config.registrationFile c.service := by
  intro courses
  refine filter_append_of_forall ?_ ?_
  · intro p hp
    obtain ⟨c, -, rfl⟩ := List.mem_map.mp hp
    exact config.isTypesFile_typesPath c.service
  · intro p hp
    obtain ⟨c, hc, rfl⟩ := List.mem_map.mp hp
    obtain ⟨s, hs, rfl⟩ := List.mem_map.mp (List.mem_filter.mp hc).1
    exact config.isTypesFile_registrationFile (hnames s hs)

/-- The failures of a report by kind are its failures by phase. -/
theorem failures_report :
    let courses := directCourses config store services
    (report config courses).typesFailures = courses.filterMap (·.preparationFailure?) ∧
      (report config courses).registrationFailures =
        courses.filterMap (·.registrationFailure?) := by
  intro courses
  refine filter_append_of_forall ?_ ?_
  · intro failure hfailure
    obtain ⟨c, hc, hsome⟩ := List.mem_filterMap.mp hfailure
    obtain ⟨s, hs, rfl⟩ := List.mem_map.mp hc
    rw [Course.preparationFailure?, fateOn] at hsome
    cases htypes : store.isReadOnly (config.typesPath s) with
    | true =>
      simp only [htypes, if_true, Option.some.injEq] at hsome
      rw [← hsome]
      exact config.isTypesFile_typesPath s
    | false =>
      cases hregistration : store.isReadOnly (config.registrationFile s) <;>
        simp [htypes, hregistration] at hsome
  · intro failure hfailure
    obtain ⟨c, hc, hsome⟩ := List.mem_filterMap.mp hfailure
    obtain ⟨s, hs, rfl⟩ := List.mem_map.mp hc
    rw [Course.registrationFailure?, fateOn] at hsome
    cases htypes : store.isReadOnly (config.typesPath s) with
    | true => simp [htypes] at hsome
    | false =>
      cases hregistration : store.isReadOnly (config.registrationFile s) with
      | false => simp [htypes, hregistration] at hsome
      | true =>
        simp only [htypes, hregistration, if_true, Bool.false_eq_true, if_false,
          Option.some.injEq] at hsome
        rw [← hsome]
        exact config.isTypesFile_registrationFile (hnames s hs)

end Parts

/-! ### The stores -/

/-- The registrations that are written in task order, when they lie in the directories of their
services. -/
theorem registrationEntries_direct (store : Memory)
    (hnames : ∀ s ∈ config.services, '/' ∉ s.name.toList) :
    registrationEntries config .inOrder store =
      ((config.services.filter (isOpen config store)).filter fun s =>
        !store.isReadOnly (config.registrationFile s)).map (registrationEntry config) := by
  rw [registrationEntries, Schedule.arrange_inOrder, openServices]
  congr 1
  refine List.filter_congr fun s hs => ?_
  have hs := (List.mem_filter.mp hs).1
  exact isRegistrable_eq config store hs (hnames s hs) rfl

theorem apart_registrationEntries (store : Memory) {xs ys : List Service}
    (hnames : ∀ s ∈ xs, '/' ∉ s.name.toList) :
    Memory.Apart (registrationEntries (config.withServices xs) .inOrder store)
      (typesEntries (config.withServices ys) store) := by
  intro entry hentry other hother hsame
  obtain ⟨s, hs, rfl⟩ := exists_of_mem_registrationEntries _ hentry
  obtain ⟨t, -, rfl⟩ := exists_of_mem_typesEntries _ hother
  rw [registrationEntry_fst, typesEntry_fst] at hsame
  exact config.registrationFile_ne_typesPath (hnames s hs) t (Path.same_iff.mp hsame)

/-- The directories of two runs are those of the one run. -/
theorem withDirectories_append (store : Memory) (xs ys : List Service)
    (entries : List (Path × String)) :
    withDirectories (config.withServices ys)
        ((withDirectories (config.withServices xs) store).record entries) =
      (withDirectories (config.withServices (xs ++ ys)) store).record entries := by
  let first := withDirectories (config.withServices xs) store
  -- the output directory is there already
  have houtput : first.createDirectories config.output = first := by
    refine Memory.createDirectories_of_mem fun d hne hprefix => ?_
    exact Memory.mem_createAll.mpr (.inr ⟨hne, config.output, List.mem_cons_self, hprefix⟩)
  have hall : withDirectories (config.withServices (xs ++ ys)) store =
      first.createAll (ys.map config.serviceDirectory) := by
    show store.createAll (config.output :: (xs ++ ys).map config.serviceDirectory) = _
    rw [List.map_append, ← List.cons_append, Memory.createAll_append]
    rfl
  rw [hall, ← Memory.record_createAll]
  show ((first.record entries).createDirectories config.output).createAll _ = _
  rw [Memory.record_createDirectories, houtput]
  rfl

/-- What one run writes, as the writes of two. -/
theorem entries_append (store : Memory) {xs ys : List Service}
    (hnames : ∀ s ∈ xs ++ ys, '/' ∉ s.name.toList) :
    typesEntries (config.withServices (xs ++ ys)) store =
        typesEntries (config.withServices xs) store ++
          typesEntries (config.withServices ys) store ∧
      registrationEntries (config.withServices (xs ++ ys)) .inOrder store =
        registrationEntries (config.withServices xs) .inOrder store ++
          registrationEntries (config.withServices ys) .inOrder store := by
  obtain ⟨hxs, hys⟩ := List.forall_mem_append.mp hnames
  constructor
  · show ((xs ++ ys).filter (isOpen config store)).map (typesEntry config) = _
    rw [List.filter_append, List.map_append]
    rfl
  · rw [registrationEntries_direct _ store hnames, registrationEntries_direct _ store hxs,
      registrationEntries_direct _ store hys]
    show (((xs ++ ys).filter (isOpen config store)).filter _).map (registrationEntry config) = _
    rw [List.filter_append, List.filter_append, List.map_append]
    rfl

/-- The writes of a run depend on the read-only places of its store only. -/
theorem entries_after (schedule : Schedule) (other : RunConfig) (store : Memory)
    (hnames : ∀ s ∈ config.services, '/' ∉ s.name.toList) :
    let left := (run Memory.filesystem schedule other store).2
    typesEntries config left = typesEntries config store ∧
      registrationEntries config .inOrder left = registrationEntries config .inOrder store := by
  intro left
  have hreadOnly : left.isReadOnly = store.isReadOnly := isReadOnly_run other schedule store
  have hopen : isOpen config left = isOpen config store := by
    funext s
    rw [isOpen, isOpen, hreadOnly]
  constructor
  · rw [typesEntries, typesEntries, openServices, openServices, hopen]
  · rw [registrationEntries_direct config left hnames,
      registrationEntries_direct config store hnames, hopen, hreadOnly]

/-- The stores that one run and two leave, by what is written to them in turn. -/
theorem stores_append (store : Memory) {xs ys : List Service}
    (hnames : ∀ s ∈ xs ++ ys, '/' ∉ s.name.toList) :
    let base := (withDirectories (config.withServices (xs ++ ys)) store).record
      (typesEntries (config.withServices xs) store)
    let types := typesEntries (config.withServices ys) store
    let early := registrationEntries (config.withServices xs) .inOrder store
    let late := registrationEntries (config.withServices ys) .inOrder store
    let first := run Memory.filesystem .inOrder (config.withServices xs) store
    (run Memory.filesystem .inOrder (config.withServices (xs ++ ys)) store).2 =
        ((base.record types).record early).record late ∧
      (run Memory.filesystem .inOrder (config.withServices ys) first.2).2 =
        ((base.record early).record types).record late := by
  intro base types early late first
  obtain ⟨-, hys⟩ := List.forall_mem_append.mp hnames
  obtain ⟨htypes, hregistrations⟩ := entries_append config store hnames
  obtain ⟨htypes', hregistrations'⟩ :=
    entries_after (config.withServices ys) .inOrder (config.withServices xs) store hys
  have hfirst : first.2 = (withDirectories (config.withServices xs) store).record
      (typesEntries (config.withServices xs) store ++ early) :=
    (run_memory (config.withServices xs) .inOrder store).2
  constructor
  · rw [(run_memory _ .inOrder store).2, htypes, hregistrations]
    simp only [base, types, early, late, Memory.record_record, List.append_assoc]
  · rw [(run_memory _ .inOrder first.2).2, htypes', hregistrations', hfirst,
      withDirectories_append]
    simp only [base, types, early, late, Memory.record_record, List.append_assoc]

/-! ### One run and two -/

/-- A run for two lists of services is a run for the first and then one for the second: all
services fare alike, the report is that of the two by phases, and the store is the same. -/
theorem run_append (store : Memory) {xs ys : List Service}
    (hnames : ∀ s ∈ xs ++ ys, '/' ∉ s.name.toList) :
    let batch := run Memory.filesystem .inOrder (config.withServices (xs ++ ys)) store
    let first := run Memory.filesystem .inOrder (config.withServices xs) store
    let second := run Memory.filesystem .inOrder (config.withServices ys) first.2
    ∃ whole left right, batch.1.result = .ok whole ∧ first.1.result = .ok left ∧
      second.1.result = .ok right ∧
      -- each service has one fate
      (∃ fate : Service → Fate,
        whole = report config ((xs ++ ys).map fun s => ⟨s, fate s⟩) ∧
        left = report config (xs.map fun s => ⟨s, fate s⟩) ∧
        right = report config (ys.map fun s => ⟨s, fate s⟩)) ∧
      -- the reports, by phase
      whole.written = left.typesFiles ++ right.typesFiles ++ left.registrationFiles ++
        right.registrationFiles ∧
      whole.failures = left.typesFailures ++ right.typesFailures ++ left.registrationFailures ++
        right.registrationFailures ∧
      -- the stores
      (∀ p, batch.2.read? p = second.2.read? p) ∧
      (Memory.Distinct store.files → batch.2.files.Perm second.2.files) ∧
      batch.2.directories = second.2.directories ∧
      batch.2.readOnly = second.2.readOnly := by
  intro batch first second
  obtain ⟨hxs, hys⟩ := List.forall_mem_append.mp hnames
  have hfate : fateOn config first.2 = fateOn config store := by
    funext s
    rw [fateOn, fateOn, isReadOnly_run]
  have hbatch : batch.1.result = .ok (report config (directCourses config store (xs ++ ys))) :=
    run_direct (config.withServices (xs ++ ys)) store hnames .inOrder
  have hfirst : first.1.result = .ok (report config (directCourses config store xs)) :=
    run_direct (config.withServices xs) store hxs .inOrder
  have hsecond : second.1.result = .ok (report config (directCourses config store ys)) := by
    have hresult : second.1.result = .ok (report config (directCourses config first.2 ys)) :=
      run_direct (config.withServices ys) first.2 hys .inOrder
    rwa [directCourses, hfate] at hresult
  have hcourses : directCourses config store (xs ++ ys) =
      directCourses config store xs ++ directCourses config store ys := List.map_append
  obtain ⟨hbatchStore, hsecondStore⟩ := stores_append config store hnames
  have hapart : Memory.Apart (registrationEntries (config.withServices xs) .inOrder store)
      (typesEntries (config.withServices ys) store) := apart_registrationEntries config store hxs
  refine ⟨_, _, _, hbatch, hfirst, hsecond, ⟨_, rfl, rfl, rfl⟩, ?_, ?_, ?_, ?_, ?_, ?_⟩
  · rw [(files_report config store hxs).1, (files_report config store hys).1,
      (files_report config store hxs).2, (files_report config store hys).2, hcourses, report]
    simp only [List.filter_append, List.map_append, List.append_assoc]
  · rw [(failures_report config store hxs).1, (failures_report config store hys).1,
      (failures_report config store hxs).2, (failures_report config store hys).2, hcourses, report]
    simp only [List.filterMap_append, List.append_assoc]
  · intro p
    rw [hbatchStore, hsecondStore]
    exact Memory.read?_record_swap _ hapart _ p
  · intro hdistinct
    rw [hbatchStore, hsecondStore]
    have hbase : Memory.Distinct ((withDirectories (config.withServices (xs ++ ys)) store).record
        (typesEntries (config.withServices xs) store)).files := by
      refine Memory.record_distinct ?_ _
      rw [withDirectories, Memory.createAll_files]
      exact hdistinct
    refine (Memory.record_perm ?_ (Memory.record_swap hbase hapart) _).symm
    exact Memory.record_distinct (Memory.record_distinct hbase _) _
  · rw [hbatchStore, hsecondStore]
    simp only [Memory.record_directories]
  · rw [hbatchStore, hsecondStore]
    simp only [Memory.record_readOnly]

/-- A run without services, to be given some. -/
def emptyRun : RunConfig where
  output := ⟨"out"⟩
  services := []
  types := {}
  register := {}

/-- A store with a file, and a place that is closed to a service of `moreServices`. -/
def partlyClosed : Memory :=
  ⟨[(⟨"notes"⟩, "kept")], [], [⟨"out/queue/types.ts"⟩]⟩

/-- Two services, the last of them named like `firstCache`. -/
def moreServices : List Service :=
  [⟨"queue", "IQueue", queue_ne_empty⟩, lastCache]

theorem run_append_moreServices :
    (∀ s ∈ [firstCache] ++ moreServices, '/' ∉ s.name.toList) ∧
      (run Memory.filesystem .inOrder (emptyRun.withServices ([firstCache] ++ moreServices))
        partlyClosed).2.files.Perm
        (run Memory.filesystem .inOrder (emptyRun.withServices moreServices)
          (run Memory.filesystem .inOrder (emptyRun.withServices [firstCache])
            partlyClosed).2).2.files := by
  have hnames : ∀ s ∈ [firstCache] ++ moreServices, '/' ∉ s.name.toList := by decide
  obtain ⟨_, _, _, -, -, -, -, -, -, -, hfiles, -, -⟩ := run_append emptyRun partlyClosed hnames
  exact ⟨hnames, hfiles (List.pairwise_singleton _ _)⟩

end Generation

end ServiceScaffold
