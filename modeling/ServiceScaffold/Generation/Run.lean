/-
A run of the generator.

A run first creates the output directory.  Then, service by service, it creates the directory of
the service and writes the shared types; a service for which this fails is left out of what
follows.  Last, the registrations of the remaining services are written, in the order of a
schedule.  A refused call affects its own service only, and nothing written is taken back.

* `Generation.run` — the run, on any `Filesystem`.
* `Outcome` — its report, or the error that kept it from starting, with the events it announced.
-/
import ServiceScaffold.Filesystem
import ServiceScaffold.Generation.Report
import ServiceScaffold.Generation.Schedule

namespace ServiceScaffold.Generation

variable {m : Type → Type} [Monad m]

/-- Writes the shared types document to `path`. -/
def writeTypes (fs : Filesystem m) (path : Path) (options : TypesOptions) :
    m (Except Error Unit) :=
  match Document.types options with
  | .error e => pure (.error e)
  | .ok content => fs.writeFile path content

/-- Writes the registration document of a service to `path`. -/
def writeRegistration (fs : Filesystem m) (path : Path) (service : Service)
    (options : RegisterOptions) : m (Except Error Unit) :=
  match Document.registration service options with
  | .error e => pure (.error e)
  | .ok content => fs.writeFile path content

/-- A registration that is still to be written. -/
structure Task where
  service : Service
  path : Path
deriving DecidableEq, Repr

/-- How far a service has come in the first phase. -/
structure Prepared where
  service : Service
  /-- Whether the shared types are written. -/
  typesWritten : Bool
  /-- The task that remains, or what went wrong. -/
  outcome : Except Error Task

/-- Creates the directory of a service and writes its shared types. -/
def prepare (fs : Filesystem m) (config : RunConfig) (service : Service) : m Prepared := do
  match ← fs.createDirectories (config.serviceDirectory service) with
  | .error e => return ⟨service, false, .error e⟩
  | .ok () =>
    match ← writeTypes fs (config.typesPath service) config.types with
    | .error e => return ⟨service, false, .error e⟩
    | .ok () =>
      match config.registrationPath service with
      | .error e => return ⟨service, true, .error e⟩
      | .ok path => return ⟨service, true, .ok ⟨service, path⟩⟩

/-- The first phase: prepares the services one after another. -/
def prepareAll (fs : Filesystem m) (config : RunConfig) : List Service → m (List Prepared)
  | [] => return []
  | service :: rest => do
    let prepared ← prepare fs config service
    let others ← prepareAll fs config rest
    return prepared :: others

/-- What an observer is told of a prepared service. -/
def Prepared.events (config : RunConfig) (p : Prepared) : List Event :=
  (if p.typesWritten then [.written p.service.name .sharedTypes (config.typesPath p.service)]
    else []) ++
  match p.outcome with
  | .error e => [.failed p.service.name e]
  | .ok _ => []

/-- The tasks that the first phase leaves, in service order. -/
def tasks (prepared : List Prepared) : List Task :=
  prepared.filterMap fun p => p.outcome.toOption

/-- The failures of the first phase. -/
def preparationFailures (prepared : List Prepared) : List ServiceFailure :=
  prepared.filterMap fun p =>
    match p.outcome with
    | .error e => some ⟨p.service.name, e⟩
    | .ok _ => none

/-- A task that was carried out, by its number, with what came of it. -/
structure Done where
  number : Nat
  task : Task
  outcome : Except Error Unit

/-- The second phase: writes the registrations of the tasks with the given numbers, in order. -/
def carryOut (fs : Filesystem m) (options : RegisterOptions) (tasks : List Task) :
    List Nat → m (List Done)
  | [] => return []
  | number :: rest =>
    match tasks[number]? with
    | none => carryOut fs options tasks rest
    | some task => do
      let outcome ← writeRegistration fs task.path task.service options
      let others ← carryOut fs options tasks rest
      return ⟨number, task, outcome⟩ :: others

/-- What an observer is told of a task. -/
def Done.event (d : Done) : Event :=
  match d.outcome with
  | .ok () => .written d.task.service.name .registration d.task.path
  | .error e => .failed d.task.service.name e

/-- The tasks back in their own order. -/
def inTaskOrder (count : Nat) (done : List Done) : List Done :=
  (List.range count).filterMap fun number => done.find? fun d => d.number == number

/-- The registrations that were written. -/
def registrationsWritten (done : List Done) : List Path :=
  done.filterMap fun d =>
    match d.outcome with
    | .ok () => some d.task.path
    | .error _ => none

/-- The failures of the second phase. -/
def registrationFailures (done : List Done) : List ServiceFailure :=
  done.filterMap fun d =>
    match d.outcome with
    | .ok () => none
    | .error e => some ⟨d.task.service.name, e⟩

/-- What came of a run. -/
structure Outcome where
  /-- The report, or why the run could not start. -/
  result : Except Error Report
  /-- The events before the second phase. -/
  firstEvents : List Event
  /-- The events of the second phase. -/
  taskEvents : List Event
  /-- The events after it. -/
  lastEvents : List Event

/-- Everything an observer was told. -/
def Outcome.events (o : Outcome) : List Event :=
  o.firstEvents ++ o.taskEvents ++ o.lastEvents

/-- The outcome of a run whose phases went as given. -/
def Outcome.ofPhases (config : RunConfig) (prepared : List Prepared) (done : List Done) :
    Outcome :=
  let ready := tasks prepared
  let ordered := inTaskOrder ready.length done
  { result := .ok {
      services := config.services.length
      written := ready.map (fun t => config.typesPath t.service) ++ registrationsWritten ordered
      failures := preparationFailures prepared ++ registrationFailures ordered }
    firstEvents := .start (2 * config.services.length) :: prepared.flatMap (·.events config)
    taskEvents := done.map Done.event
    lastEvents := [.finish] }

/-- A run. -/
def run (fs : Filesystem m) (schedule : Schedule) (config : RunConfig) : m Outcome := do
  match ← fs.createDirectories config.output with
  | .error e => return ⟨.error e, [], [], []⟩
  | .ok () =>
    let prepared ← prepareAll fs config config.services
    let ready := tasks prepared
    let done ← carryOut fs config.register ready (schedule.order ready.length)
    return Outcome.ofPhases config prepared done

end ServiceScaffold.Generation
