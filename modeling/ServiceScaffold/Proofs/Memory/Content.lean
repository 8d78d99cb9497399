/-
What a run leaves in memory.

When nothing that a run writes lies below a read-only place, every service gets both its files:
the directories were created, and no name without a slash leads to a file of another kind.  A
registration holds the document of the service that was carried out last among those that share it;
in task order this is the last one of that name.  Nothing else is touched.

* `read?_registrationFile` — which registration a place holds, after any schedule.
* `run_content` — the whole store after a run in task order.
-/
import ServiceScaffold.Proofs.Memory.Run

namespace ServiceScaffold.Generation

variable (config : RunConfig)

/-! ### Answers to the registrations -/

theorem serviceDirectory_mem_withDirectories (store : Memory) {s : Service}
    (hs : s ∈ config.services) :
    (config.serviceDirectory s).components ∈ (withDirectories config store).directories := by
  refine Memory.mem_createAll.mpr (.inr ⟨config.serviceDirectory_components_ne_nil s,
    config.serviceDirectory s, ?_, List.prefix_refl _⟩)
  exact List.mem_cons_of_mem _ (List.mem_map_of_mem hs)

/-- A registration at the place of that of a service is refused at read-only places only. -/
theorem isRegistrable_eq (store : Memory) {s t : Service} (hs : s ∈ config.services)
    (hname : '/' ∉ s.name.toList)
    (h : (config.registrationFile t).components = (config.registrationFile s).components) :
    isRegistrable config store t = !store.isReadOnly (config.registrationFile s) := by
  have hdirectory := config.serviceDirectory_components_ne_nil s
  have hplace := h.trans (config.components_registrationFile hname)
  rw [isRegistrable, Memory.accepts,
    Memory.answer_of_parent hdirectory hplace (serviceDirectory_mem_withDirectories config store hs),
    withDirectories, Memory.isReadOnly_createAll, Memory.isReadOnly_congr store h]
  cases store.isReadOnly (config.registrationFile s) <;> rfl

theorem openServices_eq {store : Memory}
    (h : ∀ s ∈ config.services, store.isReadOnly (config.typesPath s) = false) :
    openServices config store = config.services := by
  refine List.filter_eq_self.mpr fun s hs => ?_
  rw [isOpen, h s hs]
  rfl

/-! ### Reading the files -/

theorem lastContent?_registrationEntries (schedule : Schedule) (store : Memory) (p : Path) :
    Memory.lastContent? (registrationEntries config schedule store) p =
      (((schedule.arrange (openServices config store)).filter fun t =>
        (config.registrationFile t).same p && isRegistrable config store t).getLast?).map
          fun t => Document.registrationText t config.register := by
  rw [Memory.lastContent?, registrationEntries, List.filter_map, List.getLast?_map,
    Option.map_map, List.filter_filter]
  simp only [Function.comp_def, registrationEntry_fst, registrationEntry_snd]

/-- The services that write their registration to the place of that of `s`. -/
def sharingRegistration (services : List Service) (s : Service) : List Service :=
  services.filter fun t => (config.registrationFile t).same (config.registrationFile s)

/-- After any schedule, a registration holds the document of the service that was carried out last
among those that share it. -/
theorem read?_registrationFile (schedule : Schedule) (store : Memory) {s : Service}
    (hs : s ∈ config.services) (hname : '/' ∉ s.name.toList)
    (htypes : ∀ t ∈ config.services, store.isReadOnly (config.typesPath t) = false)
    (hplace : store.isReadOnly (config.registrationFile s) = false) :
    (run Memory.filesystem schedule config store).2.read? (config.registrationFile s) =
      (sharingRegistration config (schedule.arrange config.services) s).getLast?.map
        fun t => Document.registrationText t config.register := by
  have hfilter : ((schedule.arrange config.services).filter fun t =>
      (config.registrationFile t).same (config.registrationFile s) &&
        isRegistrable config store t) =
          sharingRegistration config (schedule.arrange config.services) s := by
    refine List.filter_congr fun t _ => ?_
    by_cases hsame : (config.registrationFile t).same (config.registrationFile s) = true
    · rw [hsame, isRegistrable_eq config store hs hname (Path.same_iff.mp hsame), hplace]
      rfl
    · rw [Bool.eq_false_iff.mpr hsame, Bool.false_and]
  -- the service itself is among them, so that what was there before is not read
  have hmem : s ∈ sharingRegistration config (schedule.arrange config.services) s :=
    List.mem_filter.mpr
      ⟨(schedule.arrange_perm config.services).mem_iff.mpr hs, Path.same_iff.mpr rfl⟩
  have hwinner := List.getLast?_eq_some_getLast (List.ne_nil_of_mem hmem)
  rw [(run_memory config schedule store).2, Memory.read?_record, Memory.lastContent?_append,
    lastContent?_registrationEntries, openServices_eq config htypes, hfilter, hwinner]
  rfl

/-- Shared types are not written over. -/
theorem read?_typesPath (schedule : Schedule) (store : Memory) {s : Service}
    (hs : s ∈ config.services) (hnames : ∀ t ∈ config.services, '/' ∉ t.name.toList)
    (htypes : ∀ t ∈ config.services, store.isReadOnly (config.typesPath t) = false) :
    (run Memory.filesystem schedule config store).2.read? (config.typesPath s) =
      some (Document.typesText config.types) := by
  have hnone : Memory.lastContent? (registrationEntries config schedule store)
      (config.typesPath s) = none := by
    refine Memory.lastContent?_eq_none fun entry hentry => ?_
    obtain ⟨t, ht, rfl⟩ := exists_of_mem_registrationEntries config hentry
    rw [registrationEntry_fst]
    exact config.registrationFile_ne_typesPath (hnames t ht) s
  have hmem : typesEntry config s ∈
      (typesEntries config store).filter fun entry => entry.1.same (config.typesPath s) := by
    rw [typesEntries, openServices_eq config htypes]
    exact List.mem_filter.mpr ⟨List.mem_map_of_mem hs, Path.same_iff.mpr rfl⟩
  obtain ⟨entry, hentry⟩ : ∃ entry, ((typesEntries config store).filter fun entry =>
      entry.1.same (config.typesPath s)).getLast? = some entry :=
    ⟨_, List.getLast?_eq_some_getLast (List.ne_nil_of_mem hmem)⟩
  -- all entries of the first phase hold the same text
  have htext : entry.2 = Document.typesText config.types := by
    obtain ⟨t, -, rfl⟩ := exists_of_mem_typesEntries config
      (List.mem_filter.mp (List.mem_of_getLast? hentry)).1
    rfl
  rw [(run_memory config schedule store).2, Memory.read?_record, Memory.lastContent?_append, hnone,
    Memory.lastContent?, hentry, Option.map_some, htext]
  rfl

/-- A run writes to planned paths only. -/
theorem read?_of_not_planned (schedule : Schedule) (store : Memory) {p : Path}
    (htypes : ∀ t ∈ config.services, (config.typesPath t).components ≠ p.components)
    (hregistration : ∀ t ∈ config.services,
      (config.registrationFile t).components ≠ p.components) :
    (run Memory.filesystem schedule config store).2.read? p = store.read? p := by
  have hentries : Memory.lastContent?
      (typesEntries config store ++ registrationEntries config schedule store) p = none := by
    refine Memory.lastContent?_eq_none fun entry hentry => ?_
    rcases List.mem_append.mp hentry with hentry | hentry
    · obtain ⟨t, ht, rfl⟩ := exists_of_mem_typesEntries config hentry
      rw [typesEntry_fst]
      exact htypes t ht
    · obtain ⟨t, ht, rfl⟩ := exists_of_mem_registrationEntries config hentry
      rw [registrationEntry_fst]
      exact hregistration t ht
  rw [(run_memory config schedule store).2, Memory.read?_record, hentries, withDirectories,
    Memory.read?_createAll]
  rfl

/-! ### The report and the whole store -/

/-- A report on complete services only. -/
theorem report_of_complete {courses : List Course} (h : ∀ c ∈ courses, c.fate = .complete) :
    report config courses =
      { services := courses.length
        written := courses.map (fun c => config.typesPath c.service) ++
          courses.map (fun c => config.registrationFile c.service)
        failures := [] } := by
  have hprepared : courses.filter (·.isPrepared) = courses :=
    List.filter_eq_self.mpr fun c hc => by rw [Course.isPrepared, h c hc]
  have hcomplete : courses.filter (·.isComplete) = courses :=
    List.filter_eq_self.mpr fun c hc => by rw [Course.isComplete, h c hc]
  have hfirst : courses.filterMap (·.preparationFailure?) = [] :=
    List.filterMap_eq_nil_iff.mpr fun c hc => by rw [Course.preparationFailure?, h c hc]
  have hsecond : courses.filterMap (·.registrationFailure?) = [] :=
    List.filterMap_eq_nil_iff.mpr fun c hc => by rw [Course.registrationFailure?, h c hc]
  rw [report, hprepared, hcomplete, hfirst, hsecond]
  rfl

theorem fate_courseOn {store : Memory} {s : Service} (hopen : isOpen config store s = true)
    (hregistrable : isRegistrable config store s = true) :
    (courseOn config store s).fate = .complete := by
  rw [isRegistrable, Memory.accepts_iff] at hregistrable
  rw [courseOn]
  simp only [if_pos hopen, hregistrable]
  rfl

/-- Where nothing planned is read-only, no service fails. -/
theorem courses_complete {store : Memory} (hnames : ∀ s ∈ config.services, '/' ∉ s.name.toList)
    (htypes : ∀ s ∈ config.services, store.isReadOnly (config.typesPath s) = false)
    (hplaces : ∀ s ∈ config.services, store.isReadOnly (config.registrationFile s) = false) :
    ∀ c ∈ config.services.map (courseOn config store), c.fate = .complete := by
  intro c hc
  obtain ⟨s, hs, rfl⟩ := List.mem_map.mp hc
  refine fate_courseOn config ?_ ?_
  · rw [isOpen, htypes s hs]
    rfl
  · rw [isRegistrable_eq config store hs (hnames s hs) rfl, hplaces s hs]
    rfl

/-- The planned paths of one kind, in the order of the services. -/
theorem plannedPaths_eq {plan : List PlannedFile} (hplan : config.plan = .ok plan) :
    (plan.filter fun file => file.kind = .sharedTypes).map (·.path) =
        config.services.map config.typesPath ∧
      (plan.filter fun file => file.kind = .registration).map (·.path) =
        config.services.map config.registrationFile := by
  obtain ⟨htypes, hregistrations⟩ := config.filter_plan hplan
  simp only [htypes, hregistrations, List.map_map, Function.comp_def, and_self]

/-- What holds of all planned paths holds of both files of every service. -/
theorem forall_plan_iff {plan : List PlannedFile} (hplan : config.plan = .ok plan)
    (holds : Path → Prop) :
    (∀ file ∈ plan, holds file.path) ↔
      ∀ s ∈ config.services, holds (config.typesPath s) ∧ holds (config.registrationFile s) := by
  rw [config.plan_eq, Except.ok.injEq] at hplan
  subst hplan
  rw [List.forall_mem_flatMap]
  simp only [List.forall_mem_cons, List.not_mem_nil, false_implies, implies_true, and_true]

/-- Services without a slash in their names share a registration when they share their name. -/
theorem sharingRegistration_eq {services : List Service} {s : Service}
    (hname : '/' ∉ s.name.toList) (hnames : ∀ t ∈ services, '/' ∉ t.name.toList) :
    sharingRegistration config services s = services.filter fun t => t.name = s.name := by
  refine List.filter_congr fun t ht => ?_
  rw [Bool.eq_iff_iff, Path.same_iff, decide_eq_true_iff]
  constructor
  · exact config.registrationFile_inj (hnames t ht) hname
  · intro h
    rw [config.registrationFile_congr h]

/-- Everything that a run in task order leaves in a store where nothing planned is read-only. -/
theorem run_content (store : Memory) {plan : List PlannedFile} (hplan : config.plan = .ok plan)
    (hnames : ∀ s ∈ config.services, '/' ∉ s.name.toList)
    (hwritable : ∀ place ∈ store.readOnly, ∀ file ∈ plan,
      ¬ place.components <+: file.path.components) :
    let outcome := (run Memory.filesystem .inOrder config store).1
    let final := (run Memory.filesystem .inOrder config store).2
    (∃ report, outcome.result = .ok report ∧ report.isComplete = true ∧
      report.services = config.services.length ∧
      report.written =
        (plan.filter fun file => file.kind = .sharedTypes).map (·.path) ++
          (plan.filter fun file => file.kind = .registration).map (·.path)) ∧
    (∃ types, Document.types config.types = .ok types ∧
      ∀ s ∈ config.services, final.read? (config.typesPath s) = some types) ∧
    (∀ s ∈ config.services, ∃ path last registration,
      config.registrationPath s = .ok path ∧
      (config.services.filter fun t => t.name = s.name).getLast? = some last ∧
      Document.registration last config.register = .ok registration ∧
      final.read? path = some registration) ∧
    (∀ p : Path, (∀ file ∈ plan, ¬ file.path.same p = true) → final.read? p = store.read? p) ∧
    (∀ d, d ∈ final.directories ↔ d ∈ store.directories ∨
      d ≠ [] ∧ ∃ p ∈ config.output :: config.services.map config.serviceDirectory,
        d <+: p.components) ∧
    final.readOnly = store.readOnly := by
  intro outcome final
  have hplanned (place : Path) (hplace : place ∈ store.readOnly) :=
    (forall_plan_iff config hplan fun p => ¬ place.components <+: p.components).mp
      (hwritable place hplace)
  have htypes : ∀ s ∈ config.services, store.isReadOnly (config.typesPath s) = false :=
    fun s hs => Memory.isReadOnly_eq_false_iff.mpr fun place hplace => (hplanned place hplace s hs).1
  have hplaces : ∀ s ∈ config.services, store.isReadOnly (config.registrationFile s) = false :=
    fun s hs => Memory.isReadOnly_eq_false_iff.mpr fun place hplace => (hplanned place hplace s hs).2
  obtain ⟨hresult, hfinal⟩ := run_memory config .inOrder store
  refine ⟨?_, ⟨Document.typesText config.types, Document.types_eq _, ?_⟩, ?_, ?_, ?_, ?_⟩
  · have hfates := courses_complete config hnames htypes hplaces
    obtain ⟨htypesPaths, hregistrationPaths⟩ := plannedPaths_eq config hplan
    refine ⟨_, hresult, ?_⟩
    rw [report_of_complete config hfates, htypesPaths, hregistrationPaths]
    refine ⟨rfl, List.length_map _, ?_⟩
    simp only [List.map_map, Function.comp_def, courseOn_service]
  · intro s hs
    exact read?_typesPath config .inOrder store hs hnames htypes
  · intro s hs
    have hread := read?_registrationFile config .inOrder store hs (hnames s hs) htypes (hplaces s hs)
    have hmem : s ∈ config.services.filter fun t => t.name = s.name :=
      List.mem_filter.mpr ⟨hs, decide_eq_true rfl⟩
    have hlast := List.getLast?_eq_some_getLast (List.ne_nil_of_mem hmem)
    rw [Schedule.arrange_inOrder, sharingRegistration_eq config (hnames s hs) hnames, hlast]
      at hread
    exact ⟨_, _, _, config.registrationPath_eq s, hlast, Document.registration_eq _ _, hread⟩
  · intro p hp
    have hother := (forall_plan_iff config hplan fun q => ¬ q.same p = true).mp hp
    refine read?_of_not_planned config .inOrder store (fun t ht => ?_) (fun t ht => ?_)
    · exact fun h => (hother t ht).1 (Path.same_iff.mpr h)
    · exact fun h => (hother t ht).2 (Path.same_iff.mpr h)
  · intro d
    show d ∈ (run Memory.filesystem .inOrder config store).2.directories ↔ _
    rw [hfinal]
    exact Memory.mem_createAll
  · show (run Memory.filesystem .inOrder config store).2.readOnly = _
    rw [hfinal]
    exact Memory.createAll_readOnly store _

/-- The first of two services of one name. -/
def firstCache : Service := ⟨"cache", "IFirst", by decide⟩

/-- The last of two services of one name. -/
def lastCache : Service := ⟨"cache", "ILast", by decide⟩

/-- Two services of one name, with one of another name between them. -/
def sharedNames : RunConfig where
  output := ⟨"out"⟩
  services := [firstCache, ⟨"queue", "IQueue", by decide⟩, lastCache]
  types := {}
  register := {}

theorem registrationFile_sharedNames :
    sharedNames.registrationFile firstCache = ⟨"out/cache/registerCache.ts"⟩ := by
  decide +kernel

/-- A store with a file that is planned, a file that is not, and a read-only place. -/
def occupied : Memory where
  files := [(⟨"out/cache/types.ts"⟩, "planned"), (⟨"notes"⟩, "kept")]
  directories := [[.normal "out"], [.normal "out", .normal "cache"]]
  readOnly := [⟨"vendor"⟩]

theorem run_content_sharedNames :
    (run Memory.filesystem .inOrder sharedNames occupied).2.read? ⟨"notes"⟩ = some "kept" ∧
      ∃ registration, Document.registration lastCache {} = .ok registration ∧
        (run Memory.filesystem .inOrder sharedNames occupied).2.read?
          ⟨"out/cache/registerCache.ts"⟩ = some registration := by
  obtain ⟨-, -, hregistrations, hframe, -, -⟩ := run_content sharedNames occupied
    sharedNames.plan_eq (by decide) (by decide +kernel)
  refine ⟨(hframe ⟨"notes"⟩ (by decide +kernel)).trans rfl, ?_⟩
  obtain ⟨path, last, registration, hpath, hlast, hdocument, hread⟩ :=
    hregistrations firstCache (by decide)
  rw [sharedNames.registrationPath_eq, registrationFile_sharedNames, Except.ok.injEq] at hpath
  subst hpath
  obtain rfl : lastCache = last := Option.some.inj hlast
  exact ⟨registration, hdocument, hread⟩

end ServiceScaffold.Generation
