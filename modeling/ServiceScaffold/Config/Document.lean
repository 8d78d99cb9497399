/-
Config documents.

A config document names an output directory, the services, and the options of the two generated
documents.  It is kept as JSON.

* `ConfigDocument.toJson`, `ConfigDocument.text` — the document as a value and as text.
* `ConfigDocument.starter` — the document that a new project starts from.
* `ConfigDocument.toRun` — the run that a document describes.
-/
import ServiceScaffold.Generation.Plan
import ServiceScaffold.Json.Printer
import ServiceScaffold.Options.Json

namespace ServiceScaffold

/-- A service as an object. -/
def Service.toJson (s : Service) : Json :=
  .object [("name", .string s.name), ("interface", .string s.interface)]

/-- A config document whose contents are valid. -/
structure ConfigDocument where
  output : Path
  services : List Service
  types : TypesOptions
  register : RegisterOptions
deriving DecidableEq, Repr

namespace ConfigDocument

/-- The document as a value. -/
def toJson (d : ConfigDocument) : Json :=
  .object
    [ ("output", .string d.output.text),
      ("services", .array (d.services.map Service.toJson)),
      ("types", d.types.toJson),
      ("register", d.register.toJson) ]

/-- The document as text, with one item to a line. -/
def text (d : ConfigDocument) : String :=
  d.toJson.pretty

/-- The document that a new project starts from. -/
def starter : ConfigDocument where
  output := ⟨"src/services"⟩
  services := [⟨"userService", "IUserService", by decide⟩, ⟨"logger", "ILogger", by decide⟩]
  types := {}
  register := {}

/-- The run that a document describes, with another output directory if one is given. -/
def toRun (d : ConfigDocument) (output : Option Path) : RunConfig where
  output := output.getD d.output
  services := d.services
  types := d.types
  register := d.register

end ConfigDocument

end ServiceScaffold
