/-
The format of config documents.

The format is a list of requirements, each about one place of a value and in the order in which
they are checked; how many there are depends on the number of services.  A value that meets them
stands for one document, which takes from it the values of the keys that the format knows.

* `ConfigField.steps` — where a place is; `ConfigField.text_eq_pathText`.
* `Requirement`, `requirements` — what the format asks.
* `Describes` — the document that a value stands for.
* `knownPart` — a value without the keys that the format does not know.
-/
import Mathlib.Data.List.Forall2
import ServiceScaffold.Config.Reader

namespace ServiceScaffold

/-! ### Places -/

namespace Json

/-- A step into a value. -/
inductive Step where
  | key (name : String)
  | item (index : Nat)
deriving DecidableEq, Repr

/-- What a step leads to. -/
def step? (json : Json) : Step → Option Json
  | .key name => json.member? name
  | .item index =>
    match json with
    | .array items => items[index]?
    | _ => none

/-- What steps lead to, one after the other. -/
def follow? (json : Json) : List Step → Option Json
  | [] => some json
  | step :: rest => (json.step? step).bind fun value => value.follow? rest

/-- A step as it is written after others. -/
def Step.text : Step → String
  | .key name => "." ++ name
  | .item index => "[" ++ toString index ++ "]"

/-- Steps as a JSON path. -/
def pathText : List Step → String
  | [] => "<root>"
  | .key name :: rest => name ++ String.join (rest.map Step.text)
  | steps => String.join (steps.map Step.text)

theorem follow?_append (json : Json) (first later : List Step) :
    json.follow? (first ++ later) = (json.follow? first).bind fun value => value.follow? later := by
  induction first generalizing json with
  | nil => rfl
  | cons step rest ih =>
    rw [List.cons_append, follow?, follow?, Option.bind_assoc]
    exact Option.bind_congr fun value _ => ih value

end Json

/-- The steps from the whole document to a place. -/
def ConfigField.steps : ConfigField → List Json.Step
  | .root => []
  | .output => [.key "output"]
  | .services => [.key "services"]
  | .service index => [.key "services", .item index]
  | .serviceName index => [.key "services", .item index, .key "name"]
  | .serviceInterface index => [.key "services", .item index, .key "interface"]
  | .types => [.key "types"]
  | .register => [.key "register"]

/-- A place is told by its JSON path. -/
theorem ConfigField.text_eq_pathText (field : ConfigField) :
    field.text = Json.pathText field.steps := by
  apply String.toList_injective
  cases field <;> simp [text, steps, Json.pathText, Json.Step.text, String.join]

/-- What a value holds at a place. -/
def Json.field? (json : Json) (field : ConfigField) : Option Json :=
  json.follow? field.steps

/-- One key further into an object. -/
theorem Json.field?_key {json : Json} {field : ConfigField} {members : List (String × Json)}
    {key : String} (h : json.field? field = some (.object members)) (inner : ConfigField)
    (hsteps : inner.steps = field.steps ++ [.key key]) :
    json.field? inner = lastMember? key members := by
  rw [field?] at h ⊢
  rw [hsteps, follow?_append, h, Option.bind_some, follow?]
  exact Option.bind_fun_some _

/-- One item further into an array. -/
theorem Json.field?_service {json : Json} {items : List Json}
    (h : json.field? .services = some (.array items)) (index : Nat) :
    json.field? (.service index) = items[index]? := by
  have hsteps : ConfigField.steps (.service index) =
      ConfigField.steps .services ++ [.item index] := rfl
  rw [field?] at h ⊢
  rw [hsteps, follow?_append, h, Option.bind_some, follow?]
  exact Option.bind_fun_some _

/-! ### Requirements -/

/-- The keys of the options, with the option that each gives. -/
def TypesOptions.known : List (String × (TypesOptions → String)) :=
  [ ("libraryPath", libraryPath),
    ("containerType", containerType),
    ("contextType", contextType) ]

/-- The keys of the options, with the option that each gives. -/
def RegisterOptions.known : List (String × (RegisterOptions → String)) :=
  [ ("libraryPath", libraryPath),
    ("containerType", containerType),
    ("contextType", contextType),
    ("typesModule", typesModule) ]

/-- The keys of the options at a place. -/
def ConfigField.optionKeys : ConfigField → List String
  | .types => TypesOptions.known.map Prod.fst
  | .register => RegisterOptions.known.map Prod.fst
  | _ => []

/-- Whether a value is what is expected; `keys` are the keys of options. -/
def Expected.admits (keys : List String) : Expected → Json → Bool
  | .object, .object _ => true
  | .string, .string _ => true
  | .array, .array _ => true
  | .stringOptions, json => keys.all fun key => (json.member? key).all fun value =>
      value.text?.isSome
  | .object, _ | .string, _ | .array, _ => false

@[simp]
theorem Expected.admits_object (keys : List String) (members : List (String × Json)) :
    Expected.object.admits keys (.object members) = true := rfl

/-- One thing that the format asks of a value. -/
inductive Requirement where
  /-- There is something at a place. -/
  | present (field : ConfigField)
  /-- What is at a place is what is expected. -/
  | typed (field : ConfigField) (expected : Expected)
  /-- The name of a service is not empty. -/
  | named (index : Nat)
deriving DecidableEq, Repr

namespace Requirement

/-- Whether a value meets a requirement. -/
def holds (v : Json) : Requirement → Bool
  | .present field => (v.field? field).isSome
  | .typed field expected => (v.field? field).all (expected.admits field.optionKeys)
  | .named index => (v.field? (.serviceName index)).bind Json.text? != some ""

/-- The error that tells of a requirement. -/
def error (origin : Path) : Requirement → ConfigError
  | .present field => .missingField origin field
  | .typed field expected => .invalidField origin field expected
  | .named index => .invalidService origin (.service index) .emptyServiceName

end Requirement

namespace ConfigDocument

/-- What the format asks of the service at an index. -/
def serviceRequirements (index : Nat) : List Requirement :=
  [ .typed (.service index) .object,
    .present (.serviceName index), .typed (.serviceName index) .string,
    .present (.serviceInterface index), .typed (.serviceInterface index) .string,
    .named index ]

/-- The number of services. -/
def serviceCount (v : Json) : Nat :=
  match v.field? .services with
  | some (.array items) => items.length
  | _ => 0

/-- What the format asks of a document, in order. -/
def requirements (v : Json) : List Requirement :=
  [ .typed .root .object,
    .present .output, .typed .output .string,
    .present .services, .typed .services .array ] ++
  (List.range (serviceCount v)).flatMap serviceRequirements ++
  [ .typed .types .object, .typed .types .stringOptions,
    .typed .register .object, .typed .register .stringOptions ]

/-! ### What a value stands for -/

/-- The service that a value stands for. -/
structure DescribesService (v : Json) (s : Service) : Prop where
  name : v.member? "name" = some (.string s.name)
  interface : v.member? "interface" = some (.string s.interface)

/-- The options that a value stands for, if there is one; a missing key means the default. -/
structure DescribesOptions {α : Type} (known : List (String × (α → String))) (fallback : α)
    (v : Option Json) (o : α) : Prop where
  object : ∀ json ∈ v, ∃ members, json = .object members
  text : ∀ option ∈ known,
    (v.bind (Json.member? option.1)).getD (.string (option.2 fallback)) = .string (option.2 o)

/-- The document that a value stands for. -/
structure Describes (v : Json) (d : ConfigDocument) : Prop where
  output : v.member? "output" = some (.string d.output.text)
  services : ∃ items, v.member? "services" = some (.array items) ∧
    List.Forall₂ DescribesService items d.services
  types : DescribesOptions TypesOptions.known {} (v.member? "types") d.types
  register : DescribesOptions RegisterOptions.known {} (v.member? "register") d.register

end ConfigDocument

/-! ### Keys that are not known -/

/-- A value with members of these keys only. -/
def Json.only (keys : List String) : Json → Json
  | .object members => .object (members.filter fun member => keys.contains member.1)
  | json => json

namespace ConfigDocument

/-- The part that the format knows of the value of a key. -/
def knownValue (key : String) (value : Json) : Json :=
  match key, value with
  | "services", .array items => .array (items.map (Json.only ["name", "interface"]))
  | "types", value => value.only ConfigField.types.optionKeys
  | "register", value => value.only ConfigField.register.optionKeys
  | _, value => value

/-- The part of a value that the format knows. -/
def knownPart (v : Json) : Json :=
  match v.only ["output", "services", "types", "register"] with
  | .object members => .object (members.map fun member => (member.1, knownValue member.1 member.2))
  | json => json

end ConfigDocument

end ServiceScaffold
