/-
The machine that a command runs on.

A `Host m` offers the few operations of an operating system that commands need, each with the
refusals of that system, in the monad `m`.  Everything above it is written once, for the machine
itself and for a `Disk` in a state monad alike.

* `Host.createDirectories` — a directory made together with its parents.
* `Host.filesystem` — the host as a place that runs write to.
* `Host.configSource` — the host as a provider of config documents.
* `Disk.host` — a disk as a host.
-/
import ServiceScaffold.Config.Source
import ServiceScaffold.Filesystem
import ServiceScaffold.Filesystem.Disk

namespace ServiceScaffold

/-- The operations that commands need, in the monad `m`. -/
structure Host (m : Type → Type) where
  /-- The directory that relative paths start from. -/
  workingDirectory : Path
  /-- Makes one directory, in a directory that exists. -/
  makeDirectory : Path → m (Except IoFailure Unit)
  /-- Writes a file, in place of what it held. -/
  writeBytes : Path → ByteArray → m (Except IoFailure Unit)
  /-- The bytes of a file. -/
  readBytes : Path → m (Except IoFailure ByteArray)
  /-- Whether a file, and not a directory, is there. -/
  isFile : Path → m Bool
  /-- Whether a directory is there. -/
  isDirectory : Path → m Bool
  /-- Whether anything is there. -/
  pathExists : Path → m Bool

/-- A directory that could not be created. -/
def Error.directoryRefused (p : Path) (failure : IoFailure) : Error :=
  .filesystem p ("Failed to create directory: " ++ failure.text)

/-- A file that could not be written. -/
def Error.fileRefused (p : Path) (failure : IoFailure) : Error :=
  .filesystem p ("Failed to write file: " ++ failure.text)

namespace Host

variable {m : Type → Type} [Monad m]

/-- Makes a directory, or finds it made already. -/
def ensureDirectory (host : Host m) (p : Path) : m (Except IoFailure Unit) := do
  match ← host.makeDirectory p with
  | .ok () => return .ok ()
  | .error failure =>
    if failure.kind = .alreadyExists then
      if ← host.isDirectory p then return .ok () else return .error failure
    else return .error failure

/-- Makes the first of `paths`, each the parent of the one before it, that can be made; the
paths passed over for want of a parent are returned, the outermost first. -/
def makeOutermost (host : Host m) (missing : List Path) :
    List Path → m (Except IoFailure (List Path))
  | [] => return .ok missing
  | p :: outer => do
    match ← host.ensureDirectory p with
    | .ok () => return .ok missing
    | .error failure =>
      if failure.kind = .notFound then makeOutermost host (p :: missing) outer
      else return .error failure

/-- Makes directories one after another; the first refusal ends it, and what was made stays. -/
def makeAll (host : Host m) : List Path → m (Except IoFailure Unit)
  | [] => return .ok ()
  | p :: rest => do
    match ← host.ensureDirectory p with
    | .ok () => makeAll host rest
    | .error failure => return .error failure

/-- Creates a directory with all its parents: inwards from the innermost parent that is there or
can be made. -/
def createDirectories (host : Host m) (p : Path) : m (Except IoFailure Unit) := do
  match ← host.makeOutermost [] (p.ancestors.takeWhile fun q => q.parent?.isSome) with
  | .error failure => return .error failure
  | .ok missing => host.makeAll missing

/-- The host as a place that runs write to. -/
def filesystem (host : Host m) : Filesystem m where
  createDirectories p := do
    match ← host.createDirectories p with
    | .error failure => return .error (.directoryRefused p failure)
    | .ok () => return .ok ()
  writeFile p content := do
    match ← host.writeBytes p content.toUTF8 with
    | .error failure => return .error (.fileRefused p failure)
    | .ok () => return .ok ()
  pathExists := host.pathExists

/-- The host as a provider of config documents. -/
def configSource (host : Host m) : ConfigSource m where
  isFile := host.isFile
  readBytes := host.readBytes

end Host

/-- A disk as a host whose working directory is at `location` and is called `workingDirectory`. -/
def Disk.host (workingDirectory : Path) (location : Location) : Host (StateM Disk) where
  workingDirectory := workingDirectory
  makeDirectory p := do
    match (← get).makeDirectory location p with
    | .error failure => return .error failure
    | .ok disk =>
      set disk
      return .ok ()
  writeBytes p content := do
    match (← get).writeBytes location p content with
    | .error failure => return .error failure
    | .ok disk =>
      set disk
      return .ok ()
  readBytes p := return (← get).readBytes location p
  isFile p := return (← get).isFile location p
  isDirectory p := return (← get).isDirectory location p
  pathExists p := return (← get).contains location p

end ServiceScaffold
