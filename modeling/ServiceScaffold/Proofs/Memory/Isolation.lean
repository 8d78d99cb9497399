/-
Services that fail apart from each other.

A run on a store is compared with a run on the same store after the directory of one service was
made read-only.  When names are plain, everything that a service writes lies below its own
directory and below no other, whatever the names have in common; so the one service fails, and what
comes of the others is what came of them before.

* `RunConfig.typesPath_isUnder`, `RunConfig.registrationFile_isUnder` — whose files lie below a
  directory.
* `report_filter` — a report on some of the services.
* `lockedFor`, `courseOn_lockedFor` — the second store, and the fates of the other services on it.
* `run_makeReadOnly` — both runs.
-/
import ServiceScaffold.Proofs.Memory.Schedules

namespace ServiceScaffold

/-! ### Files below a directory -/

namespace RunConfig

variable (config : RunConfig) {s t : Service}

theorem file_isUnder (hs : Path.IsPlain s.name) (ht : Path.IsPlain t.name) {p : Path}
    {c : Component} (h : p.components = (config.serviceDirectory t).components ++ [c]) :
    p.isUnder (config.serviceDirectory s) = decide (t.name = s.name) := by
  refine hs.isUnder_child ht (Path.isUnder_iff.mpr ?_)
  rw [h]
  exact List.prefix_append _ _

theorem typesPath_isUnder (hs : Path.IsPlain s.name) (ht : Path.IsPlain t.name) :
    (config.typesPath t).isUnder (config.serviceDirectory s) = decide (t.name = s.name) :=
  config.file_isUnder hs ht (config.components_typesPath t)

theorem registrationFile_isUnder (hs : Path.IsPlain s.name) (ht : Path.IsPlain t.name) :
    (config.registrationFile t).isUnder (config.serviceDirectory s) = decide (t.name = s.name) :=
  config.file_isUnder hs ht (config.components_registrationFile ht.slash_not_mem)

end RunConfig

namespace Generation

variable (config : RunConfig)

/-! ### Reports on some of the services -/

/-- What a report says of some of the services is the report on these. -/
theorem report_filter (keep : String → Bool) (ofPath : Path → Bool) {services : List Service}
    (hpaths : ∀ t ∈ services, ofPath (config.typesPath t) = keep t.name ∧
      ofPath (config.registrationFile t) = keep t.name) (store : Memory) :
    let whole := report config (services.map (courseOn config store))
    let kept := report config
      ((services.filter fun t => keep t.name).map (courseOn config store))
    whole.written.filter ofPath = kept.written ∧
      (whole.failures.filter fun f => keep f.service) = kept.failures := by
  intro whole kept
  have hkept : (services.filter fun t => keep t.name).map (courseOn config store) =
      (services.map (courseOn config store)).filter fun c => keep c.service.name := by
    rw [List.filter_map]
    rfl
  have hcourses : ∀ c ∈ services.map (courseOn config store),
      ofPath (config.typesPath c.service) = keep c.service.name ∧
        ofPath (config.registrationFile c.service) = keep c.service.name :=
    List.forall_mem_map.mpr hpaths
  simp only [whole, kept, hkept, report]
  generalize services.map (courseOn config store) = courses at hcourses
  constructor
  · simp only [List.filter_append, List.filter_map, List.filter_filter, Function.comp_def]
    congr 2
    · refine List.filter_congr fun c hc => ?_
      rw [(hcourses c hc).1, Bool.and_comm]
    · refine List.filter_congr fun c hc => ?_
      rw [(hcourses c hc).2, Bool.and_comm]
  · -- either failure of a service names it
    simp only [List.filter_append, List.filter_filterMap, List.filterMap_filter]
    congr 1
    · refine List.filterMap_congr fun c _ => ?_
      rw [Course.preparationFailure?]
      cases c.fate <;> simp [Option.filter_some]
    · refine List.filterMap_congr fun c _ => ?_
      rw [Course.registrationFailure?]
      cases c.fate <;> simp [Option.filter_some]

/-! ### Fates -/

section Fates

variable (store : Memory) {s : Service}

/-- The store after the directory of a service was made read-only. -/
def lockedFor (s : Service) : Memory :=
  store.makeReadOnly (config.serviceDirectory s)

theorem isOpen_lockedFor (hs : Path.IsPlain s.name) {t : Service} (ht : Path.IsPlain t.name) :
    isOpen config (lockedFor config store s) t =
      (isOpen config store t && decide (t.name ≠ s.name)) := by
  rw [isOpen, isOpen, lockedFor, Memory.isReadOnly_makeReadOnly, config.typesPath_isUnder hs ht,
    decide_not, Bool.not_or]

theorem answer_lockedFor (hs : Path.IsPlain s.name) {t : Service} (ht : Path.IsPlain t.name)
    (hne : t.name ≠ s.name) :
    (withDirectories config (lockedFor config store s)).answer (config.registrationFile t) =
      (withDirectories config store).answer (config.registrationFile t) := by
  have hunder := config.registrationFile_isUnder hs ht
  rw [decide_eq_false hne] at hunder
  rw [withDirectories, lockedFor, Memory.createAll_makeReadOnly, Memory.answer_makeReadOnly _ hunder,
    withDirectories]

/-- The fate of a service does not depend on the directories of others. -/
theorem courseOn_lockedFor (hs : Path.IsPlain s.name) {t : Service} (ht : Path.IsPlain t.name)
    (hne : t.name ≠ s.name) :
    courseOn config (lockedFor config store s) t = courseOn config store t := by
  have hopen := isOpen_lockedFor config store hs ht
  rw [decide_eq_true hne, Bool.and_true] at hopen
  rw [courseOn, courseOn, hopen, answer_lockedFor config store hs ht hne]

theorem courseOn_lockedFor_self (hs : Path.IsPlain s.name) :
    courseOn config (lockedFor config store s) s =
      ⟨s, .noTypes (.filesystem (config.typesPath s) "Read-only location")⟩ := by
  have hopen := isOpen_lockedFor config store hs hs
  rw [decide_eq_false (not_not.mpr rfl), Bool.and_false] at hopen
  rw [courseOn, hopen]
  rfl

end Fates

/-- Of services with different names only one has a given name. -/
theorem filter_name_eq {services : List Service} {s : Service} (hs : s ∈ services)
    (hdistinct : (services.map (·.name)).Nodup) :
    (services.filter fun t => t.name = s.name) = [s] := by
  induction services with
  | nil => exact absurd hs List.not_mem_nil
  | cons t rest ih =>
    obtain ⟨hnew, hrest⟩ := List.nodup_cons.mp (List.map_cons ▸ hdistinct)
    rw [List.filter_cons]
    rcases List.mem_cons.mp hs with rfl | hs
    · have hnone : (rest.filter fun t => t.name = s.name) = [] := by
        refine List.filter_eq_nil_iff.mpr fun u hu heq => hnew ?_
        exact List.mem_map.mpr ⟨u, hu, of_decide_eq_true heq⟩
      rw [hnone, if_pos (decide_eq_true rfl)]
    · have hne : t.name ≠ s.name := fun heq => hnew (List.mem_map.mpr ⟨s, hs, heq.symm⟩)
      rw [if_neg (by simp [hne]), ih hs hrest]

/-! ### Places of the files -/

/-- What a run writes goes to the directories of its services. -/
theorem exists_service_of_mem_entries (store : Memory)
    (hplain : ∀ t ∈ config.services, Path.IsPlain t.name) {schedule : Schedule}
    {entry : Path × String}
    (h : entry ∈ typesEntries config store ++ registrationEntries config schedule store) :
    ∃ t ∈ config.services, ∃ c,
      entry.1.components = (config.serviceDirectory t).components ++ [c] := by
  rcases List.mem_append.mp h with h | h
  · obtain ⟨t, ht, rfl⟩ := exists_of_mem_typesEntries config h
    rw [typesEntry_fst]
    exact ⟨t, ht, _, config.components_typesPath t⟩
  · obtain ⟨t, ht, rfl⟩ := exists_of_mem_registrationEntries config h
    rw [registrationEntry_fst]
    exact ⟨t, ht, _, config.components_registrationFile (hplain t ht).slash_not_mem⟩

/-! ### Both reports -/

section Runs

variable (store : Memory) {s : Service} (hs : s ∈ config.services)
  (hplain : ∀ t ∈ config.services, Path.IsPlain t.name)
include hs hplain

/-- The files of a service are those below its directory. -/
theorem forall_isUnder : ∀ t ∈ config.services,
    (config.typesPath t).isUnder (config.serviceDirectory s) = decide (t.name = s.name) ∧
      (config.registrationFile t).isUnder (config.serviceDirectory s) =
        decide (t.name = s.name) := by
  intro t ht
  exact ⟨config.typesPath_isUnder (hplain s hs) (hplain t ht),
    config.registrationFile_isUnder (hplain s hs) (hplain t ht)⟩

/-- The service itself fails, and the others fare as before. -/
theorem report_lockedFor (hdistinct : (config.services.map (·.name)).Nodup) :
    let before := report config (config.services.map (courseOn config store))
    let after := report config (config.services.map (courseOn config (lockedFor config store s)))
    (after.failures.filter fun f => f.service = s.name) =
        [⟨s.name, .filesystem (config.typesPath s) "Read-only location"⟩] ∧
      (∀ p ∈ after.written, p.isUnder (config.serviceDirectory s) = false) ∧
      after.written =
        (before.written.filter fun p => !p.isUnder (config.serviceDirectory s)) ∧
      (after.failures.filter fun f => f.service ≠ s.name) =
        before.failures.filter fun f => f.service ≠ s.name := by
  intro before after
  have hpaths := forall_isUnder config hs hplain
  have hothers : ∀ t ∈ config.services,
      (!(config.typesPath t).isUnder (config.serviceDirectory s)) = decide (t.name ≠ s.name) ∧
        (!(config.registrationFile t).isUnder (config.serviceDirectory s)) =
          decide (t.name ≠ s.name) := by
    intro t ht
    rw [(hpaths t ht).1, (hpaths t ht).2, decide_not]
    exact ⟨rfl, rfl⟩
  -- the part of the report on the service itself
  obtain ⟨hownWritten, hownFailures⟩ := report_filter config (fun name => name = s.name)
    (fun p => p.isUnder (config.serviceDirectory s)) hpaths (lockedFor config store s)
  rw [filter_name_eq hs hdistinct, List.map_singleton,
    courseOn_lockedFor_self config store (hplain s hs)] at hownWritten hownFailures
  have hnone : ∀ p ∈ after.written, p.isUnder (config.serviceDirectory s) = false := by
    intro p hp
    exact Bool.eq_false_iff.mpr (List.filter_eq_nil_iff.mp hownWritten p hp)
  -- the part on the others
  obtain ⟨hwritten, hfailures⟩ := report_filter config (fun name => name ≠ s.name)
    (fun p => !p.isUnder (config.serviceDirectory s)) hothers store
  obtain ⟨hwritten', hfailures'⟩ := report_filter config (fun name => name ≠ s.name)
    (fun p => !p.isUnder (config.serviceDirectory s)) hothers (lockedFor config store s)
  have hcourses : (config.services.filter fun t => t.name ≠ s.name).map
      (courseOn config (lockedFor config store s)) =
        (config.services.filter fun t => t.name ≠ s.name).map (courseOn config store) := by
    refine List.map_congr_left fun t ht => ?_
    obtain ⟨ht, hne⟩ := List.mem_filter.mp ht
    exact courseOn_lockedFor config store (hplain s hs) (hplain t ht) (of_decide_eq_true hne)
  rw [hcourses] at hwritten' hfailures'
  refine ⟨hownFailures, hnone, ?_, hfailures'.trans hfailures.symm⟩
  have hall : (after.written.filter fun p => !p.isUnder (config.serviceDirectory s)) =
      after.written := by
    refine List.filter_eq_self.mpr fun p hp => ?_
    rw [hnone p hp]
    rfl
  exact hall.symm.trans (hwritten'.trans hwritten.symm)

/-! ### Both stores -/

theorem openServices_lockedFor :
    openServices config (lockedFor config store s) =
      (openServices config store).filter fun t => t.name ≠ s.name := by
  rw [openServices, openServices, List.filter_filter]
  refine List.filter_congr fun t ht => ?_
  rw [isOpen_lockedFor config store (hplain s hs) (hplain t ht), Bool.and_comm]

theorem typesEntries_lockedFor :
    typesEntries config (lockedFor config store s) =
      (typesEntries config store).filter fun entry =>
        !entry.1.isUnder (config.serviceDirectory s) := by
  rw [typesEntries, typesEntries, openServices_lockedFor config store hs hplain, List.filter_map]
  congr 1
  refine List.filter_congr fun t ht => ?_
  have hpaths := forall_isUnder config hs hplain t (List.mem_filter.mp ht).1
  rw [Function.comp_apply, typesEntry_fst, hpaths.1, decide_not]

theorem isRegistrable_lockedFor {t : Service} (ht : t ∈ config.services) (hne : t.name ≠ s.name) :
    isRegistrable config (lockedFor config store s) t = isRegistrable config store t := by
  rw [isRegistrable, Memory.accepts,
    answer_lockedFor config store (hplain s hs) (hplain t ht) hne]
  rfl

theorem registrationEntries_lockedFor (a b : Schedule) :
    (registrationEntries config b (lockedFor config store s)).Perm
      ((registrationEntries config a store).filter fun entry =>
        !entry.1.isUnder (config.serviceDirectory s)) := by
  have hperm : (b.arrange (openServices config (lockedFor config store s))).Perm
      ((a.arrange (openServices config store)).filter fun t => t.name ≠ s.name) := by
    refine (b.arrange_perm _).trans ?_
    rw [openServices_lockedFor config store hs hplain]
    exact ((a.arrange_perm _).filter _).symm
  rw [registrationEntries, registrationEntries, List.filter_map]
  refine ((hperm.filter _).map _).trans (List.Perm.of_eq ?_)
  rw [List.filter_filter, List.filter_filter]
  congr 1
  refine List.filter_congr fun t ht => ?_
  have ht : t ∈ config.services :=
    (List.mem_filter.mp ((a.arrange_perm _).mem_iff.mp ht)).1
  rw [Function.comp_apply, registrationEntry_fst, (forall_isUnder config hs hplain t ht).2,
    decide_not]
  by_cases hne : t.name = s.name
  · simp [hne]
  · rw [isRegistrable_lockedFor config store hs hplain ht hne, Bool.and_comm]

/-- No file has the place of the directory of a service. -/
theorem file_ne_serviceDirectory {t : Service} (ht : t ∈ config.services) {p : Path}
    {c : Component} (h : p.components = (config.serviceDirectory t).components ++ [c]) :
    p.components ≠ (config.serviceDirectory s).components := by
  intro heq
  have hlength := congrArg List.length (h.symm.trans heq)
  simp only [RunConfig.serviceDirectory, (hplain t ht).components_child,
    (hplain s hs).components_child, List.length_append, List.length_singleton] at hlength
  omega

/-- Away from the directory, the same is read after both runs. -/
theorem read?_of_not_below (hdistinct : (config.services.map (·.name)).Nodup) (a b : Schedule)
    {p : Path} (hp : p.isUnder (config.serviceDirectory s) = true →
      p.same (config.serviceDirectory s) = true) :
    (run Memory.filesystem b config (lockedFor config store s)).2.read? p =
      (run Memory.filesystem a config store).2.read? p := by
  have hkeep : ∀ entry ∈ typesEntries config store ++ registrationEntries config a store,
      entry.1.same p = true → (!entry.1.isUnder (config.serviceDirectory s)) = true := by
    intro entry hentry hsame
    obtain ⟨t, ht, c, hplace⟩ := exists_service_of_mem_entries config store hplain hentry
    rw [Bool.not_eq_true', Bool.eq_false_iff]
    intro hunder
    -- otherwise the entry would have the place of the directory
    rw [Path.isUnder, Path.same_iff.mp hsame] at hunder
    have hdirectory := Path.same_iff.mp (Path.same_trans hsame (hp hunder))
    exact file_ne_serviceDirectory config hs hplain ht hplace hdirectory
  have hregistrations := registrationEntries_distinct config a
    (tasksOn_pairwise config store (fun t ht => (hplain t ht).slash_not_mem) hdistinct)
  have hperm := registrationEntries_lockedFor config store hs hplain a b
  have hlocked : Memory.Distinct (registrationEntries config b (lockedFor config store s)) :=
    Memory.Distinct.perm (hregistrations.sublist List.filter_sublist) hperm.symm
  rw [(run_memory config b _).2, (run_memory config a store).2, Memory.read?_record,
    Memory.read?_record, Memory.lastContent?_append, Memory.lastContent?_append,
    Memory.lastContent?_perm hlocked hperm, typesEntries_lockedFor config store hs hplain,
    Memory.lastContent?_filter fun entry hentry =>
      hkeep entry (List.mem_append_left _ hentry),
    Memory.lastContent?_filter fun entry hentry =>
      hkeep entry (List.mem_append_right _ hentry),
    withDirectories, withDirectories, Memory.read?_createAll, Memory.read?_createAll]
  rfl

/-- Below the directory, what was there is read after the second run. -/
theorem read?_of_isUnder (schedule : Schedule) {p : Path}
    (hp : p.isUnder (config.serviceDirectory s) = true) :
    (run Memory.filesystem schedule config (lockedFor config store s)).2.read? p =
      store.read? p := by
  have hnone : Memory.lastContent? (typesEntries config (lockedFor config store s) ++
      registrationEntries config schedule (lockedFor config store s)) p = none := by
    refine Memory.lastContent?_eq_none fun entry hentry hplace => ?_
    have haway : (!entry.1.isUnder (config.serviceDirectory s)) = true := by
      rw [typesEntries_lockedFor config store hs hplain] at hentry
      rcases List.mem_append.mp hentry with hentry | hentry
      · exact (List.mem_filter.mp hentry).2
      · have hperm := registrationEntries_lockedFor config store hs hplain schedule schedule
        exact (List.mem_filter.mp (hperm.mem_iff.mp hentry)).2
    rw [Path.isUnder, hplace, ← Path.isUnder, hp] at haway
    exact absurd haway (by decide)
  rw [(run_memory config schedule _).2, Memory.read?_record, hnone, withDirectories,
    Memory.read?_createAll]
  rfl

end Runs

/-! ### Both runs -/

/-- When the directory of one service is made read-only, that service fails and what was in the
directory stays; the others come out as before, in the report and in the store. -/
theorem run_makeReadOnly (a b : Schedule) (store : Memory) {s : Service}
    (hs : s ∈ config.services) (hplain : ∀ t ∈ config.services, Path.IsPlain t.name)
    (hdistinct : (config.services.map (·.name)).Nodup) :
    let directory := config.serviceDirectory s
    let left := run Memory.filesystem a config store
    let right := run Memory.filesystem b config (store.makeReadOnly directory)
    ∃ before after, left.1.result = .ok before ∧ right.1.result = .ok after ∧
      -- the service fails
      (after.failures.filter fun f => f.service = s.name) =
        [⟨s.name, .filesystem (config.typesPath s) "Read-only location"⟩] ∧
      (∀ p ∈ after.written, p.isUnder directory = false) ∧
      -- the report says the same of the others
      after.written = (before.written.filter fun p => !p.isUnder directory) ∧
      (after.failures.filter fun f => f.service ≠ s.name) =
        (before.failures.filter fun f => f.service ≠ s.name) ∧
      -- the same is read away from the directory, and what was there is read below it
      (∀ p : Path, (p.isUnder directory = true → p.same directory = true) →
        right.2.read? p = left.2.read? p) ∧
      ∀ p : Path, p.isUnder directory = true → right.2.read? p = store.read? p := by
  intro directory left right
  obtain ⟨hown, haway, hwritten, hfailures⟩ :=
    report_lockedFor config store hs hplain hdistinct
  refine ⟨_, _, (run_memory config a store).1, (run_memory config b _).1, hown, haway, hwritten,
    hfailures, ?_, ?_⟩
  · intro p hp
    exact read?_of_not_below config store hs hplain hdistinct a b hp
  · intro p hp
    exact read?_of_isUnder config store hs hplain b hp

/-- Services one of whose names begins with the other. -/
def similarNames : RunConfig where
  output := ⟨"out"⟩
  services := [⟨"a", "IA", by decide⟩, ⟨"ab", "IAb", by decide⟩]
  types := {}
  register := {}

theorem run_makeReadOnly_similarNames :
    let store : Memory := ⟨[(⟨"out/a/notes"⟩, "kept")], [], []⟩
    let locked := store.makeReadOnly ⟨"out/a"⟩
    (run Memory.filesystem .reversed similarNames locked).2.read? ⟨"out/a/notes"⟩ = some "kept" ∧
      (run Memory.filesystem .reversed similarNames locked).2.read? ⟨"out/ab/types.ts"⟩ =
        (run Memory.filesystem .inOrder similarNames store).2.read? ⟨"out/ab/types.ts"⟩ := by
  intro store locked
  have hplain : ∀ t ∈ similarNames.services, Path.IsPlain t.name := by decide
  have hdirectory : similarNames.serviceDirectory ⟨"a", "IA", by decide⟩ = ⟨"out/a"⟩ := by decide
  have hruns := run_makeReadOnly similarNames .inOrder .reversed store
    (s := ⟨"a", "IA", by decide⟩) (by decide) hplain (by decide)
  rw [hdirectory] at hruns
  obtain ⟨_, _, -, -, -, -, -, -, haway, hbelow⟩ := hruns
  have hnotes : store.read? ⟨"out/a/notes"⟩ = some "kept" := by decide
  constructor
  · rw [← hnotes]
    exact hbelow ⟨"out/a/notes"⟩ (by decide)
  · exact haway ⟨"out/ab/types.ts"⟩ (by decide)

end Generation

end ServiceScaffold
