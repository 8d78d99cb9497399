/-
The report of a run against its plan.

Number the services of a run from zero.  On any filesystem, and in any order of the tasks, the
report is decided by two sets of numbers: `A`, the services whose directory and shared types are
there, and `B ⊆ A`, those that have their registration too.  The plan lists two files for each
service; written are the shared types of `A` and the registrations of `B`, and every service
outside `B` has failed once, with the error of the call that was refused.

* `run_report` — the report, read off the calls of the run.
-/
import Mathlib.Data.Fintype.Card
import Mathlib.Data.List.FinRange
import ServiceScaffold.Proofs.Generation.Trace

namespace ServiceScaffold.Generation

/-! ### Numbered services -/

section Numbered

variable {n : Nat}

/-- The numbers of a set, ascending. -/
def ascending (S : Finset (Fin n)) : List (Fin n) :=
  (List.finRange n).filter (· ∈ S)

theorem length_ascending (S : Finset (Fin n)) : (ascending S).length = S.card := by
  have hfilter : Finset.univ.filter (· ∈ S) = S := by simp
  conv_rhs => rw [← hfilter]
  simp [ascending, Finset.card_def, Finset.filter_val, Fin.univ_def]

theorem filter_map_numbered {α : Type} (f : Fin n → α) (p : α → Bool) :
    ((List.finRange n).map f).filter p =
      (ascending (Finset.univ.filter fun i => p (f i) = true)).map f := by
  rw [List.filter_map, ascending]
  congr 1
  exact List.filter_congr fun i _ => by simp

theorem filterMap_numbered {α β : Type} (f : Fin n → α) (g : α → Option β) (h : Fin n → β)
    (S : Finset (Fin n)) (hin : ∀ i ∈ S, g (f i) = some (h i)) (hout : ∀ i ∉ S, g (f i) = none) :
    ((List.finRange n).map f).filterMap g = (ascending S).map h := by
  rw [List.filterMap_map, ascending, ← List.filterMap_eq_map, ← List.filterMap_eq_filter,
    List.filterMap_filterMap]
  refine List.filterMap_congr fun i _ => ?_
  by_cases hi : i ∈ S
  · simp [hi, hin i hi]
  · simp [hout i hi, Option.guard, hi]

/-- A list of courses for given services, numbered like these. -/
theorem exists_numbered {courses : List Course} {services : List Service}
    (h : courses.map (·.service) = services) :
    ∃ course : Fin services.length → Course,
      courses = (List.finRange services.length).map course ∧
      ∀ i, (course i).service = services.get i := by
  subst h
  have hlength : (courses.map (·.service)).length = courses.length := List.length_map _
  refine ⟨fun i => courses.get (i.cast hlength), ?_, fun i => ?_⟩
  · apply List.ext_getElem
    · simp
    · intro i hi hi'
      simp
  · simp

end Numbered

/-! ### The answers behind a fate -/

namespace Fate

/-- The answer to the call that creates the directory. -/
def created : Fate → Except Error Unit
  | .noDirectory e => .error e
  | .noTypes _ | .noRegistration _ | .complete => .ok ()

/-- The answer to the call that writes the shared types. -/
def typesWritten : Fate → Except Error Unit
  | .noTypes e => .error e
  | .noDirectory _ | .noRegistration _ | .complete => .ok ()

/-- The error of the call that was refused, if one was. -/
def error : Fate → Error
  | .noDirectory e | .noTypes e | .noRegistration e => e
  | .complete => default

end Fate

theorem isPrepared_iff (c : Course) :
    c.isPrepared = true ↔ c.fate.created = .ok () ∧ c.fate.typesWritten = .ok () := by
  obtain ⟨service, fate⟩ := c
  cases fate <;> simp [Course.isPrepared, Fate.created, Fate.typesWritten]

theorem isComplete_iff (c : Course) :
    c.isComplete = true ↔ c.isPrepared = true ∧ c.answer = .ok () := by
  obtain ⟨service, fate⟩ := c
  cases fate <;> simp [Course.isPrepared, Course.isComplete, Course.answer]

theorem error_of_not_prepared {c : Course} (h : ¬ c.isPrepared = true) :
    (c.fate.created = .error c.fate.error ∨
      c.fate.created = .ok () ∧ c.fate.typesWritten = .error c.fate.error) ∧
    c.preparationFailure? = some ⟨c.service.name, c.fate.error⟩ := by
  obtain ⟨service, fate⟩ := c
  cases fate <;>
    simp_all [Course.isPrepared, Fate.created, Fate.typesWritten, Fate.error,
      Course.preparationFailure?]

theorem error_of_not_complete {c : Course} (hprepared : c.isPrepared = true)
    (h : ¬ c.isComplete = true) :
    c.answer = .error c.fate.error ∧
    c.registrationFailure? = some ⟨c.service.name, c.fate.error⟩ := by
  obtain ⟨service, fate⟩ := c
  cases fate <;>
    simp_all [Course.isPrepared, Course.isComplete, Course.answer, Fate.error,
      Course.registrationFailure?]

theorem preparationFailure?_of_prepared {c : Course} (h : c.isPrepared = true) :
    c.preparationFailure? = none := by
  obtain ⟨service, fate⟩ := c
  cases fate <;> simp_all [Course.isPrepared, Course.preparationFailure?]

theorem registrationFailure?_eq_none {c : Course}
    (h : ¬ c.isPrepared = true ∨ c.isComplete = true) : c.registrationFailure? = none := by
  obtain ⟨service, fate⟩ := c
  cases fate <;> simp_all [Course.isPrepared, Course.isComplete, Course.registrationFailure?]

theorem preparation_eq (config : RunConfig) (c : Course) :
    c.preparation config =
      .createDirectories (config.serviceDirectory c.service) c.fate.created ::
        match c.fate.created with
        | .ok () =>
          [.writeFile (config.typesPath c.service) (Document.typesText config.types)
            c.fate.typesWritten]
        | .error _ => [] := by
  obtain ⟨service, fate⟩ := c
  cases fate <;> rfl

/-! ### Reports of numbered services -/

section Report

variable {n : Nat} (config : RunConfig) (course : Fin n → Course)

/-- The numbers of the prepared services. -/
def preparedNumbers : Finset (Fin n) :=
  Finset.univ.filter fun i => (course i).isPrepared = true

/-- The numbers of the complete services. -/
def completeNumbers : Finset (Fin n) :=
  Finset.univ.filter fun i => (course i).isComplete = true

theorem mem_preparedNumbers (i : Fin n) :
    i ∈ preparedNumbers course ↔ (course i).isPrepared = true := by
  simp [preparedNumbers]

theorem mem_completeNumbers (i : Fin n) :
    i ∈ completeNumbers course ↔ (course i).isComplete = true := by
  simp [completeNumbers]

theorem completeNumbers_subset : completeNumbers course ⊆ preparedNumbers course := by
  intro i hi
  rw [mem_completeNumbers, isComplete_iff] at hi
  exact (mem_preparedNumbers course i).mpr hi.1

/-- The report, with the services by their numbers. -/
theorem report_numbered :
    report config ((List.finRange n).map course) =
      { services := n
        written :=
          (ascending (preparedNumbers course)).map
              (fun i => config.typesPath (course i).service) ++
            (ascending (completeNumbers course)).map
              (fun i => config.registrationFile (course i).service)
        failures :=
          (ascending (preparedNumbers course)ᶜ).map
              (fun i => ⟨(course i).service.name, (course i).fate.error⟩) ++
            (ascending (preparedNumbers course \ completeNumbers course)).map
              (fun i => ⟨(course i).service.name, (course i).fate.error⟩) } := by
  have hfirst := filterMap_numbered course (·.preparationFailure?)
    (fun i => ⟨(course i).service.name, (course i).fate.error⟩) (preparedNumbers course)ᶜ
    (fun i hi => by
      rw [Finset.mem_compl, mem_preparedNumbers] at hi
      exact (error_of_not_prepared hi).2)
    (fun i hi => by
      rw [Finset.mem_compl, not_not, mem_preparedNumbers] at hi
      exact preparationFailure?_of_prepared hi)
  have hsecond := filterMap_numbered course (·.registrationFailure?)
    (fun i => ⟨(course i).service.name, (course i).fate.error⟩)
    (preparedNumbers course \ completeNumbers course)
    (fun i hi => by
      rw [Finset.mem_sdiff, mem_preparedNumbers, mem_completeNumbers] at hi
      exact (error_of_not_complete hi.1 hi.2).2)
    (fun i hi => by
      rw [Finset.mem_sdiff, mem_preparedNumbers, mem_completeNumbers, not_and_or, not_not] at hi
      exact registrationFailure?_eq_none hi)
  simp only [report, filter_map_numbered, List.map_map, hfirst, hsecond, List.length_map,
    List.length_finRange]
  rfl

/-- The services that are not complete are those that failed, each once. -/
theorem length_failures_numbered :
    (report config ((List.finRange n).map course)).failures.length =
      n - (completeNumbers course).card := by
  have hle : (completeNumbers course).card ≤ (preparedNumbers course).card :=
    Finset.card_le_card (completeNumbers_subset course)
  have hbound : (preparedNumbers course).card ≤ n := by
    simpa using Finset.card_le_univ (preparedNumbers course)
  rw [report_numbered]
  simp only [List.length_append, List.length_map, length_ascending, Finset.card_compl,
    Fintype.card_fin, Finset.card_sdiff_of_subset (completeNumbers_subset course)]
  omega

theorem result_numbered :
    (report config ((List.finRange n).map course)).result =
      if completeNumbers course = Finset.univ then .ok ()
      else .error (.generationIncomplete (n - (completeNumbers course).card) n) := by
  have hlength := length_failures_numbered config course
  have hservices : (report config ((List.finRange n).map course)).services = n := by
    simp [report]
  have hbound : (completeNumbers course).card ≤ n := by
    simpa using Finset.card_le_univ (completeNumbers course)
  have hcomplete : (report config ((List.finRange n).map course)).isComplete = true ↔
      completeNumbers course = Finset.univ := by
    rw [Report.isComplete, List.isEmpty_iff, ← List.length_eq_zero_iff, hlength,
      ← Finset.card_eq_iff_eq_univ, Fintype.card_fin]
    omega
  rw [Report.result, hlength, hservices]
  by_cases huniv : completeNumbers course = Finset.univ
  · rw [if_pos (hcomplete.mpr huniv), if_pos huniv]
  · rw [if_neg (fun h => huniv (hcomplete.mp h)), if_neg huniv]

end Report

/-- The report of a run, on any filesystem and in any order of the tasks. -/
theorem run_report {σ : Type} (fs : Filesystem (StateM σ)) (s : σ) (schedule : Schedule)
    (config : RunConfig) :
    let n := config.services.length
    let service : Fin n → Service := config.services.get
    ∃ (types : String) (registration : Fin n → String) (register : Fin n → Path),
      Document.types config.types = .ok types ∧
      (∀ i, Document.registration (service i) config.register = .ok (registration i)) ∧
      (∀ i, config.registrationPath (service i) = .ok (register i)) ∧
      config.plan = .ok ((List.finRange n).flatMap fun i =>
        [⟨(service i).name, .sharedTypes, config.typesPath (service i)⟩,
          ⟨(service i).name, .registration, register i⟩]) ∧
      match (fs.createDirectories config.output s).1 with
      | .error e => (run fs schedule config s).1.result = .error e
      | .ok () =>
        ∃ (created typesWritten registered : Fin n → Except Error Unit) (error : Fin n → Error)
          (A B : Finset (Fin n)) (late : List Call) (report : Report),
          -- the calls of the run, each with its answer
          run fs.recorded schedule config (s, []) =
            ((run fs schedule config s).1, (run fs schedule config s).2,
              .createDirectories config.output (.ok ()) ::
                ((List.finRange n).flatMap (fun i =>
                  .createDirectories (config.serviceDirectory (service i)) (created i) ::
                    match created i with
                    | .ok () =>
                      [.writeFile (config.typesPath (service i)) types (typesWritten i)]
                    | .error _ => []) ++ late)) ∧
          late.Perm ((ascending A).map fun i =>
            .writeFile (register i) (registration i) (registered i)) ∧
          -- the services by how far they came
          B ⊆ A ∧
          (∀ i, i ∈ A ↔ created i = .ok () ∧ typesWritten i = .ok ()) ∧
          (∀ i, i ∈ B ↔ i ∈ A ∧ registered i = .ok ()) ∧
          (∀ i, i ∉ A →
            created i = .error (error i) ∨
              created i = .ok () ∧ typesWritten i = .error (error i)) ∧
          (∀ i, i ∈ A → i ∉ B → registered i = .error (error i)) ∧
          -- the report
          (run fs schedule config s).1.result = .ok report ∧
          report.services = n ∧
          report.written =
            (ascending A).map (fun i => config.typesPath (service i)) ++
              (ascending B).map register ∧
          report.failures =
            (ascending Aᶜ).map (fun i => ⟨(service i).name, error i⟩) ++
              (ascending (A \ B)).map (fun i => ⟨(service i).name, error i⟩) ∧
          report.failures.length = n - B.card ∧
          report.result =
            if B = Finset.univ then .ok () else .error (.generationIncomplete (n - B.card) n) := by
  intro n service
  refine ⟨Document.typesText config.types,
    fun i => Document.registrationText (service i) config.register,
    fun i => config.registrationFile (service i), Document.types_eq _,
    fun i => Document.registration_eq _ _, fun i => config.registrationPath_eq _, ?_, ?_⟩
  · rw [config.plan_eq]
    conv_lhs => rw [← List.map_get_finRange config.services]
    rw [List.flatMap_map]
  · cases hroot : (fs.createDirectories config.output s).1 with
    | error e =>
      obtain ⟨s', hrun⟩ := run_refused fs schedule config s hroot
      show (run fs schedule config s).1.result = .error e
      rw [hrun.plain]
    | ok _ =>
      obtain ⟨courses, late, outcome, s', hservices, hlate, hresult, hrun⟩ :=
        run_traced fs schedule config s hroot
      obtain ⟨course, rfl, hcourse⟩ := exists_numbered hservices
      have hnumbered := report_numbered config course
      simp only [hcourse] at hnumbered
      refine ⟨fun i => (course i).fate.created, fun i => (course i).fate.typesWritten,
        fun i => (course i).answer, fun i => (course i).fate.error, preparedNumbers course,
        completeNumbers course, late, report config ((List.finRange n).map course), ?_, ?_,
        completeNumbers_subset course, ?_, ?_, ?_, ?_, ?_, ?_, ?_, ?_, ?_, ?_⟩
      · rw [hrun.plain, hrun.recorded, List.nil_append, List.flatMap_map]
        simp only [preparation_eq, hcourse]
        rfl
      · rw [filter_map_numbered, List.map_map] at hlate
        simp only [Function.comp_def, Course.registrationCall, hcourse] at hlate
        exact hlate
      · intro i
        rw [mem_preparedNumbers, isPrepared_iff]
      · intro i
        rw [mem_completeNumbers, mem_preparedNumbers, isComplete_iff]
      · intro i hi
        rw [mem_preparedNumbers] at hi
        exact (error_of_not_prepared hi).1
      · intro i hA hB
        rw [mem_preparedNumbers] at hA
        rw [mem_completeNumbers] at hB
        exact (error_of_not_complete hA hB).1
      · rw [hrun.plain, hresult]
      · rw [hnumbered]
      · rw [hnumbered]
      · rw [hnumbered]
      · exact length_failures_numbered config course
      · exact result_numbered config course

end ServiceScaffold.Generation
