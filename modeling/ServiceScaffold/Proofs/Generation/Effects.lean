/-
The calls of a run, in their order.

A run creates the output directory before anything else, then prepares the services one after
another, and only then writes registrations: one for each service whose two calls were both
answered without an error, in the order of the schedule.  No other call is made, so none is made
again after it was refused.

* `Filesystem.Replays` — calls made one after another, with their answers.
* `run_preserves` — what every call preserves, a run preserves; hence `replays_run`.
* `Preparation`, `FirstPhase` — the calls for one service, and for services in list order.
* `run_calls` — every run, call by call.
-/
import ServiceScaffold.Proofs.Generation.Schedule
import ServiceScaffold.Proofs.Generation.Trace

namespace ServiceScaffold

/-! ### What calls preserve -/

namespace Filesystem

variable {σ α β : Type}

/-- The calls, made one after another from `s`, get the answers they tell of and lead to a state. -/
inductive Replays (fs : Filesystem (StateM σ)) (s : σ) : List Call → σ → Prop where
  | start : Replays fs s [] s
  | createDirectories {calls : List Call} {s₁ : σ} (earlier : Replays fs s calls s₁) (p : Path) :
      Replays fs s (calls ++ [.createDirectories p (fs.createDirectories p s₁).1])
        (fs.createDirectories p s₁).2
  | writeFile {calls : List Call} {s₁ : σ} (earlier : Replays fs s calls s₁) (p : Path)
      (content : String) :
      Replays fs s (calls ++ [.writeFile p content (fs.writeFile p content s₁).1])
        (fs.writeFile p content s₁).2
  | pathExists {calls : List Call} {s₁ : σ} (earlier : Replays fs s calls s₁) (p : Path) :
      Replays fs s (calls ++ [.pathExists p (fs.pathExists p s₁).1]) (fs.pathExists p s₁).2

/-- From every state with `P`, `x` leads to one with `P`. -/
def Preserves (P : σ → Prop) (x : StateM σ α) : Prop :=
  ∀ s, P s → P (x s).2

theorem Preserves.pure (P : σ → Prop) (a : α) : Preserves P (Pure.pure a : StateM σ α) :=
  fun _ hs => hs

theorem Preserves.bind {P : σ → Prop} {x : StateM σ α} {f : α → StateM σ β}
    (hx : Preserves P x) (hf : ∀ a, Preserves P (f a)) : Preserves P (x >>= f) :=
  fun s hs => hf (x s).1 (x s).2 (hx s hs)

end Filesystem

namespace Generation

open Filesystem

section Preserves

variable {σ : Type} {fs : Filesystem (StateM σ)} {P : σ → Prop}
  (hdirectory : ∀ p, Preserves P (fs.createDirectories p))
  (hfile : ∀ p content, Preserves P (fs.writeFile p content))
include hdirectory hfile

theorem prepare_preserves (config : RunConfig) (service : Service) :
    Preserves P (prepare fs config service) := by
  refine (hdirectory _).bind fun created => ?_
  cases created with
  | error e => exact .pure P _
  | ok _ =>
    rw [writeTypes_eq]
    refine (hfile _ _).bind fun written => ?_
    rw [config.registrationPath_eq]
    cases written with
    | error e => exact .pure P _
    | ok _ => exact .pure P _

theorem prepareAll_preserves (config : RunConfig) (services : List Service) :
    Preserves P (prepareAll fs config services) := by
  induction services with
  | nil => exact .pure P _
  | cons service rest ih =>
    exact (prepare_preserves hdirectory hfile config service).bind fun _ =>
      ih.bind fun _ => .pure P _

omit hdirectory in
theorem carryOut_preserves (options : RegisterOptions) (tasks : List Task) (order : List Nat) :
    Preserves P (carryOut fs options tasks order) := by
  induction order with
  | nil => exact .pure P _
  | cons number rest ih =>
    rw [carryOut]
    cases tasks[number]? with
    | none => exact ih
    | some task =>
      simp only [writeRegistration_eq]
      exact (hfile _ _).bind fun _ => ih.bind fun _ => .pure P _

/-- What every call preserves, a run preserves. -/
theorem run_preserves (schedule : Schedule) (config : RunConfig) :
    Preserves P (run fs schedule config) := by
  refine (hdirectory _).bind fun created => ?_
  cases created with
  | error e => exact .pure P _
  | ok _ =>
    exact (prepareAll_preserves hdirectory hfile config _).bind fun _ =>
      (carryOut_preserves hfile config.register _ _).bind fun _ => .pure P _

end Preserves

/-- The record of a run tells of calls that were made, with the answers they got. -/
theorem replays_run {σ : Type} (fs : Filesystem (StateM σ)) (schedule : Schedule)
    (config : RunConfig) (s : σ) :
    fs.Replays s (run fs.recorded schedule config (s, [])).2.2
      (run fs.recorded schedule config (s, [])).2.1 := by
  have hpreserved : Preserves (fun record : σ × List Call => fs.Replays s record.2 record.1)
      (run fs.recorded schedule config) :=
    run_preserves (fun p _ earlier => earlier.createDirectories p)
      (fun p content _ earlier => earlier.writeFile p content) schedule config
  exact hpreserved (s, []) .start

/-! ### The first phase -/

section FirstPhase

variable (config : RunConfig) (types : String)

/-- The calls that prepare a service, and whether its registration is to be written after them. -/
inductive Preparation (service : Service) : List Call → Bool → Prop where
  | noDirectory (e : Error) :
      Preparation service [.createDirectories (config.serviceDirectory service) (.error e)] false
  | noTypes (e : Error) :
      Preparation service
        [.createDirectories (config.serviceDirectory service) (.ok ()),
          .writeFile (config.typesPath service) types (.error e)] false
  | ready :
      Preparation service
        [.createDirectories (config.serviceDirectory service) (.ok ()),
          .writeFile (config.typesPath service) types (.ok ())] true

/-- The calls that prepare services in list order, and the services whose registrations are to be
written after them. -/
inductive FirstPhase : List Service → List Call → List Service → Prop where
  | done : FirstPhase [] [] []
  | skipped {service : Service} {rest ready : List Service} {calls others : List Call}
      (first : Preparation config types service calls false)
      (later : FirstPhase rest others ready) :
      FirstPhase (service :: rest) (calls ++ others) ready
  | prepared {service : Service} {rest ready : List Service} {calls others : List Call}
      (first : Preparation config types service calls true)
      (later : FirstPhase rest others ready) :
      FirstPhase (service :: rest) (calls ++ others) (service :: ready)

end FirstPhase

theorem preparation_course (config : RunConfig) (c : Course) :
    Preparation config (Document.typesText config.types) c.service (c.preparation config)
      c.isPrepared := by
  obtain ⟨service, fate⟩ := c
  cases fate with
  | noDirectory e => exact .noDirectory e
  | noTypes e => exact .noTypes e
  | noRegistration e => exact .ready
  | complete => exact .ready

theorem firstPhase_courses (config : RunConfig) (courses : List Course) :
    FirstPhase config (Document.typesText config.types) (courses.map (·.service))
      (courses.flatMap (·.preparation config))
      ((courses.filter (·.isPrepared)).map (·.service)) := by
  induction courses with
  | nil => exact .done
  | cons c rest ih =>
    have hfirst := preparation_course config c
    rw [List.map_cons, List.flatMap_cons, List.filter_cons]
    cases hprepared : c.isPrepared with
    | false =>
      rw [hprepared] at hfirst
      exact .skipped hfirst ih
    | true =>
      rw [hprepared] at hfirst
      exact .prepared hfirst ih

/-! ### The second phase -/

/-- Tasks are carried out in the order of the schedule. -/
theorem map_task_eq_arrange {ready : List Task} {done : List Done} (schedule : Schedule)
    (h : CarriedOut ready done) (hnumbers : done.map (·.number) = schedule.order ready.length) :
    done.map (·.task) = schedule.arrange ready := by
  rw [Schedule.arrange, ← hnumbers, List.filterMap_map, ← List.filterMap_eq_map]
  exact List.filterMap_congr fun d hd => (h.task d hd).symm

theorem forall₂_calls (config : RunConfig) {services : List Service} {done : List Done}
    (h : done.map (·.task) = services.map fun service => ⟨service, config.registrationFile service⟩) :
    List.Forall₂
      (fun service call => ∃ answer, call = .writeFile (config.registrationFile service)
        (Document.registrationText service config.register) answer)
      services (done.map (Done.call config.register)) := by
  induction done generalizing services with
  | nil =>
    obtain rfl := List.map_eq_nil_iff.mp h.symm
    exact .nil
  | cons d rest ih =>
    obtain ⟨service, others, rfl, htask, hrest⟩ := List.map_eq_cons_iff.mp h.symm
    have hd : d.task = ⟨service, config.registrationFile service⟩ := htask.symm
    refine .cons ⟨d.outcome, ?_⟩ (ih hrest.symm)
    rw [Done.call, hd]

/-! ### Runs -/

/-- The calls of a run, on any filesystem and in any order of the tasks. -/
theorem run_calls {σ : Type} (fs : Filesystem (StateM σ)) (s : σ) (schedule : Schedule)
    (config : RunConfig) :
    ∃ (types : String) (registration : Service → String) (register : Service → Path)
      (calls : List Call),
      Document.types config.types = .ok types ∧
      (∀ service, Document.registration service config.register = .ok (registration service)) ∧
      (∀ service, config.registrationPath service = .ok (register service)) ∧
      -- `calls` is all that the run asks of `fs`
      run fs.recorded schedule config (s, []) =
        ((run fs schedule config s).1, (run fs schedule config s).2, calls) ∧
      fs.Replays s calls (run fs schedule config s).2 ∧
      match (fs.createDirectories config.output s).1 with
      | .error e => calls = [.createDirectories config.output (.error e)]
      | .ok () =>
        ∃ (first late : List Call) (ready : List Service),
          calls = .createDirectories config.output (.ok ()) :: (first ++ late) ∧
          FirstPhase config types config.services first ready ∧
          (schedule.arrange ready).Perm ready ∧
          List.Forall₂
            (fun service call => ∃ answer,
              call = .writeFile (register service) (registration service) answer)
            (schedule.arrange ready) late := by
  refine ⟨Document.typesText config.types,
    fun service => Document.registrationText service config.register,
    fun service => config.registrationFile service,
    (run fs.recorded schedule config (s, [])).2.2, Document.types_eq _,
    fun service => Document.registration_eq _ _, fun service => config.registrationPath_eq _, ?_⟩
  have hreplays := replays_run fs schedule config s
  cases hroot : (fs.createDirectories config.output s).1 with
  | error e =>
    obtain ⟨s', hrun⟩ := run_refused fs schedule config s hroot
    rw [hrun.recorded] at hreplays ⊢
    rw [hrun.plain]
    exact ⟨rfl, hreplays, rfl⟩
  | ok _ =>
    obtain ⟨courses, done, s', hservices, hcarried, hnumbers, hrun⟩ :=
      run_phases fs schedule config s hroot
    rw [hrun.recorded] at hreplays ⊢
    rw [hrun.plain]
    refine ⟨rfl, hreplays, courses.flatMap (·.preparation config),
      done.map (Done.call config.register), (courses.filter (·.isPrepared)).map (·.service), rfl,
      ?_, schedule.arrange_perm _, ?_⟩
    · rw [← hservices]
      exact firstPhase_courses config courses
    · -- the tasks are those of the prepared services, taken up as the schedule says
      refine forall₂_calls config ?_
      rw [map_task_eq_arrange schedule hcarried hnumbers, tasks_prepared, schedule.arrange_map,
        schedule.arrange_map, List.map_map]
      rfl

end Generation

end ServiceScaffold
