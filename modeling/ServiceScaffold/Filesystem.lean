/-
The places that files are written to.

A run of the generator needs three operations, each given a path: create a directory with all its
parents, write a file, and ask whether something is there.  `Filesystem m` is any provider of them
in the monad `m`: a store in memory or a disk when `m` is a state monad, the machine itself in the
outermost layer.  A refusal is an `Error`, and later calls go on from whatever state it left.

* `Filesystem.withFaults` — the same place, refusing at given paths.
-/
import ServiceScaffold.Error

namespace ServiceScaffold

/-- The operations that a run needs, in the monad `m`. -/
structure Filesystem (m : Type → Type) where
  /-- Creates a directory and all its parents. -/
  createDirectories : Path → m (Except Error Unit)
  /-- Writes a file, in place of what it held. -/
  writeFile : Path → String → m (Except Error Unit)
  /-- Whether something is there. -/
  pathExists : Path → m Bool

/-- Paths at which an operation is refused, with the reasons. -/
structure Faults where
  directories : List (Path × String) := []
  files : List (Path × String) := []
deriving Repr, Inhabited

/-- The reason given for `p`: that of the first entry for the same place. -/
def Faults.reason? (faults : List (Path × String)) (p : Path) : Option String :=
  (faults.find? fun entry => entry.1.same p).map (·.2)

/-- Refuses the paths of `faults` before `fs` is asked. -/
def Filesystem.withFaults {m : Type → Type} [Monad m] (fs : Filesystem m) (faults : Faults) :
    Filesystem m where
  createDirectories p :=
    match Faults.reason? faults.directories p with
    | some reason => pure (.error (.filesystem p reason))
    | none => fs.createDirectories p
  writeFile p content :=
    match Faults.reason? faults.files p with
    | some reason => pure (.error (.filesystem p reason))
    | none => fs.writeFile p content
  pathExists := fs.pathExists

end ServiceScaffold
