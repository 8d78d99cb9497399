/-
What a run writes.

A run is described by an output directory, the services and the options of the two documents.
Each service has a directory of its own below the output directory, named like the service, with
the shared types and the registration in it.

* `RunConfig.serviceDirectory` — the directory of a service.
* `RunConfig.plan` — the files of a run, two for each service, in the order of the services.
-/
import ServiceScaffold.Document
import ServiceScaffold.Path

namespace ServiceScaffold

/-- Everything that decides what a run writes. -/
structure RunConfig where
  output : Path
  services : List Service
  types : TypesOptions
  register : RegisterOptions
deriving DecidableEq, Repr

/-- Which document a file holds. -/
inductive FileKind where
  | sharedTypes
  | registration
deriving DecidableEq, Repr, Inhabited

/-- A file that a run would write. -/
structure PlannedFile where
  service : String
  kind : FileKind
  path : Path
deriving DecidableEq, Repr

namespace RunConfig

/-- The directory of a service. -/
def serviceDirectory (config : RunConfig) (service : Service) : Path :=
  config.output.child service.name

/-- The file of the shared types of a service. -/
def typesPath (config : RunConfig) (service : Service) : Path :=
  (config.serviceDirectory service).child Document.typesFileName

/-- The file of the registration of a service. -/
def registrationPath (config : RunConfig) (service : Service) : Except Error Path :=
  match Document.registrationFileName service with
  | .error e => .error e
  | .ok name => .ok ((config.serviceDirectory service).child name)

/-- The files of some of the services of a run. -/
def planFor (config : RunConfig) : List Service → Except Error (List PlannedFile)
  | [] => .ok []
  | service :: rest =>
    match config.registrationPath service with
    | .error e => .error e
    | .ok path =>
      match planFor config rest with
      | .error e => .error e
      | .ok files =>
        .ok (⟨service.name, .sharedTypes, config.typesPath service⟩ ::
          ⟨service.name, .registration, path⟩ :: files)

/-- The files of a run. -/
def plan (config : RunConfig) : Except Error (List PlannedFile) :=
  config.planFor config.services

end RunConfig

end ServiceScaffold
