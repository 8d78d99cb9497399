/-
Reading config documents.

The value of a config document is checked field by field, in a fixed order: the whole, the output
directory, the services one by one, then the two objects of options.  The first place that breaks
the format is reported.  Keys that are not known are ignored everywhere.

* `ConfigDocument.ofJson` — the document that a value stands for.
* `ConfigDocument.parse` — the document that a text stands for.
-/
import ServiceScaffold.Config.Document
import ServiceScaffold.Config.Error
import ServiceScaffold.Json.Reader

namespace ServiceScaffold.ConfigDocument

/-- The members of a value that has to be an object. -/
def readObject (origin : Path) (field : ConfigField) (json : Json) :
    Except ConfigError (List (String × Json)) :=
  match json with
  | .object members => .ok members
  | _ => .error (.invalidField origin field .object)

/-- The text of a required member. -/
def readText (origin : Path) (field : ConfigField) (members : List (String × Json))
    (key : String) : Except ConfigError String :=
  match Json.lastMember? key members with
  | none => .error (.missingField origin field)
  | some (.string text) => .ok text
  | some _ => .error (.invalidField origin field .string)

/-- The service that a value stands for. -/
def readService (origin : Path) (index : Nat) (json : Json) : Except ConfigError Service := do
  let members ← readObject origin (.service index) json
  let name ← readText origin (.serviceName index) members "name"
  let interface ← readText origin (.serviceInterface index) members "interface"
  match Service.new name interface with
  | .ok service => return service
  | .error e => throw (.invalidService origin (.service index) e)

/-- The services that values stand for, the first of them at `index`. -/
def readServices (origin : Path) (index : Nat) : List Json → Except ConfigError (List Service)
  | [] => .ok []
  | json :: rest =>
    match readService origin index json with
    | .error e => .error e
    | .ok service =>
      match readServices origin (index + 1) rest with
      | .error e => .error e
      | .ok services => .ok (service :: services)

/-- The services of a document. -/
def readServiceList (origin : Path) (members : List (String × Json)) :
    Except ConfigError (List Service) :=
  match Json.lastMember? "services" members with
  | none => .error (.missingField origin .services)
  | some (.array items) => readServices origin 0 items
  | some _ => .error (.invalidField origin .services .array)

/-- The options under a key, defaults when the key is missing. -/
def readOptions {α : Type} (origin : Path) (field : ConfigField)
    (members : List (String × Json)) (key : String) (fallback : α)
    (ofMembers? : List (String × Json) → Option α) : Except ConfigError α :=
  match Json.lastMember? key members with
  | none => .ok fallback
  | some (.object options) =>
    match ofMembers? options with
    | some value => .ok value
    | none => .error (.invalidField origin field .stringOptions)
  | some _ => .error (.invalidField origin field .object)

/-- The document that a value stands for. -/
def ofJson (origin : Path) (json : Json) : Except ConfigError ConfigDocument := do
  let members ← readObject origin .root json
  let output ← readText origin .output members "output"
  let services ← readServiceList origin members
  let types ← readOptions origin .types members "types" {} TypesOptions.ofMembers?
  let register ← readOptions origin .register members "register" {} RegisterOptions.ofMembers?
  return ⟨⟨output⟩, services, types, register⟩

/-- What is said of a text that is not JSON; the place and the cause are not told. -/
def syntaxReason : String := "<json-error>"

/-- The document that a text stands for; `origin` only labels errors. -/
def parse (origin : Path) (text : String) : Except ConfigError ConfigDocument :=
  match Json.parse? text with
  | none => .error (.malformed ⟨origin, syntaxReason⟩)
  | some json => ofJson origin json

end ServiceScaffold.ConfigDocument
