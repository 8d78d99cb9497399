/-
What came of a run.

A run that could start ends in a report: how many services it was given, the files it wrote and
the services that failed.  While it goes on, an observer is told of each event.

* `Report.result` — whether every service got its files.
* `Event` — what an observer is told.
-/
import ServiceScaffold.Generation.Plan

namespace ServiceScaffold

/-- A service whose files are not all written, and why. -/
structure ServiceFailure where
  service : String
  error : Error
deriving DecidableEq, Repr, Inhabited

/-- The outcome of a run that could start. -/
structure Report where
  /-- The number of services of the run. -/
  services : Nat
  /-- The files written: the shared types, then the registrations, each in service order. -/
  written : List Path
  /-- The failures: of the first phase, then of the second, each in service order. -/
  failures : List ServiceFailure
deriving DecidableEq, Repr, Inhabited

/-- Whether no service failed. -/
def Report.isComplete (report : Report) : Bool :=
  report.failures.isEmpty

/-- A report as a result: a run with failures is an error. -/
def Report.result (report : Report) : Except Error Unit :=
  if report.isComplete then .ok ()
  else .error (.generationIncomplete report.failures.length report.services)

/-- What an observer is told of a run. -/
inductive Event where
  /-- The run starts, with that many files planned. -/
  | start (files : Nat)
  /-- A file of a service is written. -/
  | written (service : String) (kind : FileKind) (path : Path)
  /-- A service failed; its remaining files are skipped. -/
  | failed (service : String) (error : Error)
  /-- The run is over. -/
  | finish
deriving DecidableEq, Repr, Inhabited

end ServiceScaffold
