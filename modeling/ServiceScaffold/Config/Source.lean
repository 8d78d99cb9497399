/-
Where config documents come from.

A document is read from the file that is asked for, or from the first of the conventional files
that is there.

* `ConfigSource` — any provider of files, in a monad.
* `ConfigSource.discover` — the conventional file of a directory.
* `ConfigSource.load` — the document in a file.
-/
import ServiceScaffold.Config.Reader

namespace ServiceScaffold

/-- The conventional names of config files, the preferred one first. -/
def configFileNames : List String :=
  ["digen.config.json", "digen.json", ".digenrc.json"]

/-- The file that a new config document is written to. -/
def starterFileName : String := "digen.config.json"

/-- The bytes of a file as text. -/
def decodeText (bytes : ByteArray) : Except IoFailure String :=
  match String.fromUTF8? bytes with
  | some text => .ok text
  | none => .error .notText

theorem decodeText_toUTF8 (text : String) : decodeText text.toUTF8 = .ok text := by
  have hvalid : text.toUTF8.IsValidUTF8 := text.isValidUTF8
  rw [decodeText, String.fromUTF8?, dif_pos hvalid]
  rfl

/-- A provider of files, in the monad `m`. -/
structure ConfigSource (m : Type → Type) where
  /-- Whether a file, and not a directory, is there. -/
  isFile : Path → m Bool
  /-- The bytes of a file. -/
  readBytes : Path → m (Except IoFailure ByteArray)

namespace ConfigSource

variable {m : Type → Type} [Monad m]

/-- The first of the paths at which there is a file. -/
def firstFile? (source : ConfigSource m) : List Path → m (Option Path)
  | [] => return none
  | p :: rest => do
    if ← source.isFile p then return some p else firstFile? source rest

/-- The conventional config file of a directory. -/
def discover (source : ConfigSource m) (directory : Path) : m (Option Path) :=
  source.firstFile? (configFileNames.map directory.child)

/-- The text of a file. -/
def readText (source : ConfigSource m) (p : Path) : m (Except IoFailure String) := do
  match ← source.readBytes p with
  | .error e => return .error e
  | .ok bytes => return decodeText bytes

/-- The document in a file. -/
def load (source : ConfigSource m) (p : Path) : m (Except ConfigError ConfigDocument) := do
  match ← source.readText p with
  | .error e => return .error (.read p e)
  | .ok text => return ConfigDocument.parse p text

end ConfigSource

end ServiceScaffold
