/-
A store in memory.

The store holds files by path, the directories that were created, and the places made read-only.
Paths are told apart by their components only.  Creating a directory always succeeds, also where a
file is; writing needs a created parent, unless the path has none, and is refused below a read-only
place.

* `Memory.createDirectories`, `Memory.write`, `Memory.makeReadOnly` — the three changes.
* `Memory.answer` — how a write is answered.
* `Memory.read?`, `Memory.contains`, `Memory.list` — what can be seen of a store.
* `Memory.filesystem` — the store as a place to write to.
-/
import ServiceScaffold.Filesystem

namespace ServiceScaffold

/-- A store of files in memory. -/
structure Memory where
  /-- The files, each place once, with the spelling it was first written by. -/
  files : List (Path × String)
  /-- The directories, by their components. -/
  directories : List (List Component)
  /-- The places below which nothing can be written. -/
  readOnly : List Path
deriving DecidableEq, Repr, Inhabited

namespace Memory

/-- The store without files and directories. -/
def empty : Memory := ⟨[], [], []⟩

/-- The prefixes of a list, without the empty one, shortest first. -/
def initials {α : Type} : List α → List (List α)
  | [] => []
  | a :: rest => [a] :: (initials rest).map (a :: ·)

/-- Adds an element at the end of a list that does not hold it. -/
def adjoin {α : Type} [DecidableEq α] (l : List α) (a : α) : List α :=
  if a ∈ l then l else l ++ [a]

/-- Creates the directory `p` and all its parents. -/
def createDirectories (store : Memory) (p : Path) : Memory :=
  { store with directories := (initials p.components).foldl adjoin store.directories }

/-- Gives the file at `p` the content `content`, keeping the spelling of a file already there. -/
def put (p : Path) (content : String) : List (Path × String) → List (Path × String)
  | [] => [(p, content)]
  | (q, old) :: rest =>
    if q.same p then (q, content) :: rest else (q, old) :: put p content rest

/-- Whether `p` is a read-only place or lies below one. -/
def isReadOnly (store : Memory) (p : Path) : Bool :=
  store.readOnly.any p.isUnder

/-- The components of the directory that has to exist before `p` can be written, if there is
one. -/
def requiredParent (p : Path) : Option (List Component) :=
  match p.components.reverse with
  | [] | [_] => none
  | _ :: above => some above.reverse

/-- Writes a file. -/
def write (store : Memory) (p : Path) (content : String) : Except Error Memory :=
  if store.isReadOnly p then .error (.filesystem p "Read-only location")
  else
    let written : Memory := { store with files := put p content store.files }
    match requiredParent p with
    | none => .ok written
    | some parent =>
      if parent ∈ store.directories then .ok written
      else .error (.filesystem p "Parent directory does not exist")

/-- The answer to a write at `p`, whatever is written. -/
def answer (store : Memory) (p : Path) : Except Error Unit :=
  if store.isReadOnly p then .error (.filesystem p "Read-only location")
  else
    match requiredParent p with
    | none => .ok ()
    | some parent =>
      if parent ∈ store.directories then .ok ()
      else .error (.filesystem p "Parent directory does not exist")

/-- Makes `p` and everything below it read-only. -/
def makeReadOnly (store : Memory) (p : Path) : Memory :=
  { store with readOnly := store.readOnly ++ [p] }

/-- The content of the file at `p`. -/
def read? (store : Memory) (p : Path) : Option String :=
  (store.files.find? fun file => file.1.same p).map (·.2)

/-- Whether a file or a directory is at `p`. -/
def contains (store : Memory) (p : Path) : Bool :=
  (store.read? p).isSome || p.components ∈ store.directories

/-- The paths of the files, sorted. -/
def list (store : Memory) : List Path :=
  (store.files.map (·.1)).mergeSort Path.sortsBefore

/-- The store as a place to write to. -/
def filesystem : Filesystem (StateM Memory) where
  createDirectories p := do
    modify (·.createDirectories p)
    return .ok ()
  writeFile p content := do
    match (← get).write p content with
    | .error e => return .error e
    | .ok store =>
      set store
      return .ok ()
  pathExists p := return (← get).contains p

end Memory

end ServiceScaffold
