/-
A disk.

A disk maps places, each the list of names that lead to it from the root, to files and
directories.  Paths are followed as Linux follows them: step by step from the root or from the
working directory, every step but the last through an existing directory, with two dots leading
up from where the walk has come to.

* `Disk.lastStep` — where a path leads, up to its last name.
* `Disk.makeDirectory`, `Disk.writeBytes`, `Disk.readBytes`, `Disk.entryAt` — the operations,
  each with the refusals of the system.
* `Disk.below` — what a directory holds.
-/
import ServiceScaffold.Filesystem.Failure
import ServiceScaffold.Path

namespace ServiceScaffold

/-- The names that lead from the root to a place. -/
abbrev Location := List String

/-- What a place holds. -/
inductive Entry where
  | file (content : ByteArray)
  | directory
deriving Inhabited

/-- Whether an entry is a directory. -/
def Entry.isDirectory : Entry → Bool
  | .directory => true
  | .file _ => false

/-- Files and directories by their places.  The root is always a directory. -/
structure Disk where
  entries : List (Location × Entry)
deriving Inhabited

namespace Disk

/-- A disk with nothing but its root. -/
def empty : Disk := ⟨[]⟩

/-- What is at a place. -/
def entry? (disk : Disk) (location : Location) : Option Entry :=
  if location = [] then some .directory else disk.entries.lookup location

/-- Gives a place an entry in a list of entries. -/
def putEntry (location : Location) (entry : Entry) :
    List (Location × Entry) → List (Location × Entry)
  | [] => [(location, entry)]
  | (l, e) :: rest =>
    if l = location then (l, entry) :: rest else (l, e) :: putEntry location entry rest

/-- Gives a place an entry. -/
def put (disk : Disk) (location : Location) (entry : Entry) : Disk :=
  ⟨putEntry location entry disk.entries⟩

/-- The longest name that a directory can hold, in bytes. -/
def maxName : Nat := 255

/-- The length in bytes that no path reaches. -/
def maxPath : Nat := 4096

/-- What is at a name in a directory; names that are too long are refused. -/
def lookUp (disk : Disk) (parent : Location) (name : String) : Except IoFailure (Option Entry) :=
  if maxName < name.utf8ByteSize then .error .nameTooLong
  else .ok (disk.entry? (parent ++ [name]))

/-- Follows steps through directories. -/
def walk (disk : Disk) : Location → List (List Char) → Except IoFailure Location
  | here, [] => .ok here
  | here, piece :: rest =>
    if Path.isIdle piece then walk disk here rest
    else if piece = ['.', '.'] then walk disk here.dropLast rest
    else
      let name := String.ofList piece
      match disk.lookUp here name with
      | .error e => .error e
      | .ok none => .error .notFound
      | .ok (some (.file _)) => .error .notADirectory
      | .ok (some .directory) => walk disk (here ++ [name]) rest

/-- Where a path leads. -/
inductive LastStep where
  /-- To a directory that the walk has come to. -/
  | here (location : Location)
  /-- To a name in such a directory; `slash` says whether a slash follows the name. -/
  | name (parent : Location) (name : String) (slash : Bool)
deriving DecidableEq, Repr

/-- Drops the empty pieces at the end, which trailing slashes make. -/
def dropSlashes (ps : List (List Char)) : List (List Char) :=
  (ps.reverse.dropWhile (· == [])).reverse

/-- Follows a path up to its last name, from the working directory `cwd` if it is relative. -/
def lastStep (disk : Disk) (cwd : Location) (p : Path) : Except IoFailure LastStep :=
  let text := p.text.toList
  if text = [] then .error .notFound
  else if '\x00' ∈ text then .error .zeroInName
  else if maxPath ≤ p.text.utf8ByteSize then .error .nameTooLong
  else
    let start := if p.isAbsolute then [] else cwd
    let all := Path.pieces text
    let kept := dropSlashes all
    match kept.getLast? with
    | none => .ok (.here start)
    | some last =>
      match disk.walk start kept.dropLast with
      | .error e => .error e
      | .ok parent =>
        if Path.isIdle last then .ok (.here parent)
        else if last = ['.', '.'] then .ok (.here parent.dropLast)
        else .ok (.name parent (String.ofList last) (kept.length != all.length))

/-- What a path leads to. -/
def entryAt (disk : Disk) (cwd : Location) (p : Path) : Except IoFailure Entry :=
  match disk.lastStep cwd p with
  | .error e => .error e
  | .ok (.here _) => .ok .directory
  | .ok (.name parent name slash) =>
    match disk.lookUp parent name with
    | .error e => .error e
    | .ok none => .error .notFound
    | .ok (some .directory) => .ok .directory
    | .ok (some (.file content)) => if slash then .error .notADirectory else .ok (.file content)

/-- Whether a path leads to anything. -/
def contains (disk : Disk) (cwd : Location) (p : Path) : Bool :=
  match disk.entryAt cwd p with
  | .ok _ => true
  | .error _ => false

/-- Whether a path leads to a file. -/
def isFile (disk : Disk) (cwd : Location) (p : Path) : Bool :=
  match disk.entryAt cwd p with
  | .ok (.file _) => true
  | _ => false

/-- Whether a path leads to a directory. -/
def isDirectory (disk : Disk) (cwd : Location) (p : Path) : Bool :=
  match disk.entryAt cwd p with
  | .ok .directory => true
  | _ => false

/-- The content of the file that a path leads to. -/
def readBytes (disk : Disk) (cwd : Location) (p : Path) : Except IoFailure ByteArray :=
  match disk.entryAt cwd p with
  | .error e => .error e
  | .ok .directory => .error .isADirectory
  | .ok (.file content) => .ok content

/-- Writes the file that a path leads to. -/
def writeBytes (disk : Disk) (cwd : Location) (p : Path) (content : ByteArray) :
    Except IoFailure Disk :=
  match disk.lastStep cwd p with
  | .error e => .error e
  | .ok (.here _) => .error .isADirectory
  | .ok (.name parent name slash) =>
    if slash then .error .isADirectory
    else
      match disk.lookUp parent name with
      | .error e => .error e
      | .ok (some .directory) => .error .isADirectory
      | .ok _ => .ok (disk.put (parent ++ [name]) (.file content))

/-- Makes one directory, in a directory that exists. -/
def makeDirectory (disk : Disk) (cwd : Location) (p : Path) : Except IoFailure Disk :=
  match disk.lastStep cwd p with
  | .error e => .error e
  | .ok (.here _) => .error .alreadyExists
  | .ok (.name parent name _) =>
    match disk.lookUp parent name with
    | .error e => .error e
    | .ok (some _) => .error .alreadyExists
    | .ok none => .ok (disk.put (parent ++ [name]) .directory)

/-- What a directory holds at any depth, by the names that lead there from it. -/
def below (disk : Disk) (location : Location) : List (Location × Entry) :=
  disk.entries.filterMap fun (l, e) =>
    if location.isPrefixOf l && l != location then some (l.drop location.length, e) else none

end Disk

end ServiceScaffold
