/-
Options as JSON.

Options are written as an object whose keys are the option names in camel case.  When they are
read, a missing key means the default, an unknown key is ignored, and a value that is not a string
is refused.  An array is read too: its items are the options by position.

* `TypesOptions.toJson`, `RegisterOptions.toJson` — the objects written.
* `TypesOptions.ofJson?`, `RegisterOptions.ofJson?` — the options that a value stands for.
-/
import ServiceScaffold.Json
import ServiceScaffold.Options

namespace ServiceScaffold

namespace Json

/-- The text of a member, or a default when the key is missing. -/
def textMember? (members : List (String × Json)) (key fallback : String) : Option String :=
  match lastMember? key members with
  | none => some fallback
  | some value => value.text?

/-- The text of an item, or a default when the array ends before it. -/
def textItem? (items : List Json) (index : Nat) (fallback : String) : Option String :=
  match items[index]? with
  | none => some fallback
  | some value => value.text?

end Json

namespace TypesOptions

/-- The options as an object. -/
def toJson (o : TypesOptions) : Json :=
  .object
    [ ("libraryPath", .string o.libraryPath),
      ("containerType", .string o.containerType),
      ("contextType", .string o.contextType) ]

/-- The options that the members of an object give. -/
def ofMembers? (members : List (String × Json)) : Option TypesOptions := do
  let fallback : TypesOptions := {}
  let libraryPath ← Json.textMember? members "libraryPath" fallback.libraryPath
  let containerType ← Json.textMember? members "containerType" fallback.containerType
  let contextType ← Json.textMember? members "contextType" fallback.contextType
  return ⟨libraryPath, containerType, contextType⟩

/-- The options that the items of an array give. -/
def ofItems? (items : List Json) : Option TypesOptions := do
  let fallback : TypesOptions := {}
  let libraryPath ← Json.textItem? items 0 fallback.libraryPath
  let containerType ← Json.textItem? items 1 fallback.containerType
  let contextType ← Json.textItem? items 2 fallback.contextType
  if 3 < items.length then none else some ⟨libraryPath, containerType, contextType⟩

/-- The options that a value stands for. -/
def ofJson? : Json → Option TypesOptions
  | .object members => ofMembers? members
  | .array items => ofItems? items
  | _ => none

end TypesOptions

namespace RegisterOptions

/-- The options as an object. -/
def toJson (o : RegisterOptions) : Json :=
  .object
    [ ("libraryPath", .string o.libraryPath),
      ("containerType", .string o.containerType),
      ("contextType", .string o.contextType),
      ("typesModule", .string o.typesModule) ]

/-- The options that the members of an object give. -/
def ofMembers? (members : List (String × Json)) : Option RegisterOptions := do
  let fallback : RegisterOptions := {}
  let libraryPath ← Json.textMember? members "libraryPath" fallback.libraryPath
  let containerType ← Json.textMember? members "containerType" fallback.containerType
  let contextType ← Json.textMember? members "contextType" fallback.contextType
  let typesModule ← Json.textMember? members "typesModule" fallback.typesModule
  return ⟨libraryPath, containerType, contextType, typesModule⟩

/-- The options that the items of an array give. -/
def ofItems? (items : List Json) : Option RegisterOptions := do
  let fallback : RegisterOptions := {}
  let libraryPath ← Json.textItem? items 0 fallback.libraryPath
  let containerType ← Json.textItem? items 1 fallback.containerType
  let contextType ← Json.textItem? items 2 fallback.contextType
  let typesModule ← Json.textItem? items 3 fallback.typesModule
  if 4 < items.length then none
  else some ⟨libraryPath, containerType, contextType, typesModule⟩

/-- The options that a value stands for. -/
def ofJson? : Json → Option RegisterOptions
  | .object members => ofMembers? members
  | .array items => ofItems? items
  | _ => none

end RegisterOptions

end ServiceScaffold
