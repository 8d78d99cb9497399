/-
The generated documents.

Two documents belong to a service: the shared types, three lines long, and the registration, which
declares the interface of the service, adds it to the list of services, and holds a place for its
implementation and for a mock.  Lines that carry names are templates filled with the options and
the names of the service; since a template cannot hold a literal brace, braces come from the
block layout or from a bound value.

* `types` — the shared types document.
* `registration` — the registration document of a service.
* `registrationFileName` — the file that the registration goes to.
-/
import ServiceScaffold.Naming.Pattern
import ServiceScaffold.Options
import ServiceScaffold.Service

namespace ServiceScaffold.Document

/-- The file name of the shared types document. -/
def typesFileName : String := "types.ts"

/-- The interface that every registration adds a member to. -/
def servicesList : String := "ServicesList"

/-- The file name of the registration of a service. -/
def registrationFileName (service : Service) : Except Error String :=
  parameterize "register\x7bName\x7d.ts" service.name .pascal

/-- The name of the function that registers a service. -/
def registrationFunction (service : Service) : Except Error String :=
  parameterize "register\x7bName\x7d" service.name .pascal

/-- Moves an entry one level to the right.  Only its first line moves. -/
def indent (entry : String) : String :=
  "  " ++ entry

/-- A header with an opening brace, an indented body, and the line that closes it. -/
def block (header : String) (body : List String) (closing : String) : List String :=
  (header ++ " \x7b") :: body.map indent ++ [closing]

/-- Entries as text, each ended by a line break. -/
def text (entries : List String) : String :=
  String.join (entries.map (· ++ "\n"))

/-- Fills each line in turn; the first that fails decides. -/
def fillAll (bindings : Bindings) : List String → Except Error (List String)
  | [] => .ok []
  | line :: rest =>
    match Template.fill line bindings with
    | .error e => .error e
    | .ok filled =>
      match fillAll bindings rest with
      | .error e => .error e
      | .ok more => .ok (filled :: more)

/-- A name between braces, as an import clause. -/
def importClause (symbol : String) : String :=
  "\x7b " ++ symbol ++ " \x7d"

/-- The values of the shared types document. -/
def typesBindings (options : TypesOptions) : Bindings :=
  .ofList
    [ ("imports", importClause options.containerType),
      ("library", options.libraryPath),
      ("list", servicesList),
      ("container", options.containerType),
      ("context", options.contextType),
      ("empty", "\x7b\x7d") ]

/-- The shared types document.  It does not depend on the services, which join the list of
services from their own registrations. -/
def types (options : TypesOptions) : Except Error String :=
  match fillAll (typesBindings options)
    [ "import \x7bimports\x7d from '\x7blibrary\x7d';",
      "export interface \x7blist\x7d \x7bempty\x7d",
      "export type \x7bcontext\x7d = \x7bcontainer\x7d<\x7blist\x7d>;" ] with
  | .error e => .error e
  | .ok entries => .ok (text entries)

/-- The values of the registration document. -/
def registrationBindings (service : Service) (options : RegisterOptions) (function : String) :
    Bindings :=
  .ofList
    [ ("container_imports", importClause options.containerType),
      ("context_imports", importClause options.contextType),
      ("library", options.libraryPath),
      ("types_module", options.typesModule),
      ("context", options.contextType),
      ("interface", service.interface),
      ("list", servicesList),
      ("key", NamingCase.camel.convert service.name),
      ("register", function) ]

/-- The lines of the registration document that carry names. -/
structure RegistrationLines where
  importContainer : String
  importContext : String
  interfaceHeader : String
  interfaceNote : String
  listHeader : String
  listMember : String
  moduleHeader : String
  bindHeader : String
  implementationNote : String
  functionHeader : String
  mockNote : String
  mockHeader : String
  attachMock : String
deriving DecidableEq, Repr

/-- The lines as templates. -/
def registrationTemplates : RegistrationLines where
  importContainer := "import \x7bcontainer_imports\x7d from '\x7blibrary\x7d';"
  importContext := "import type \x7bcontext_imports\x7d from '\x7btypes_module\x7d';"
  interfaceHeader := "export interface \x7binterface\x7d"
  interfaceNote := "// describe the \x7binterface\x7d contract here"
  listHeader := "interface \x7blist\x7d"
  listMember := "\x7bkey\x7d: \x7binterface\x7d;"
  moduleHeader := "declare module '\x7btypes_module\x7d'"
  bindHeader := "container.bind('\x7bkey\x7d',"
  implementationNote := "// provide the \x7binterface\x7d implementation here"
  functionHeader := "export default function \x7bregister\x7d(container: \x7bcontext\x7d)"
  mockNote := "// provide a \x7binterface\x7d mock here"
  mockHeader := "export function mock(container: \x7bcontext\x7d)"
  attachMock := "\x7bregister\x7d.mock = mock;"

/-- Fills the lines in the order in which the document shows them. -/
def RegistrationLines.fill (lines : RegistrationLines) (bindings : Bindings) :
    Except Error RegistrationLines := do
  let filled (template : String) : Except Error String := Template.fill template bindings
  return {
    importContainer := ← filled lines.importContainer
    importContext := ← filled lines.importContext
    interfaceHeader := ← filled lines.interfaceHeader
    interfaceNote := ← filled lines.interfaceNote
    listHeader := ← filled lines.listHeader
    listMember := ← filled lines.listMember
    moduleHeader := ← filled lines.moduleHeader
    bindHeader := ← filled lines.bindHeader
    implementationNote := ← filled lines.implementationNote
    functionHeader := ← filled lines.functionHeader
    mockNote := ← filled lines.mockNote
    mockHeader := ← filled lines.mockHeader
    attachMock := ← filled lines.attachMock }

/-- The document that filled lines make. -/
def RegistrationLines.layout (lines : RegistrationLines) : List String :=
  let bind (note : String) : List String := block lines.bindHeader [note] "\x7d);"
  [lines.importContainer, lines.importContext, ""] ++
    block lines.interfaceHeader [lines.interfaceNote] "\x7d" ++ [""] ++
    block lines.moduleHeader (block lines.listHeader [lines.listMember] "\x7d") "\x7d" ++ [""] ++
    block lines.functionHeader (bind lines.implementationNote) "\x7d" ++ [""] ++
    block lines.mockHeader (bind lines.mockNote) "\x7d" ++ [""] ++
    [lines.attachMock]

/-- The registration document of a service. -/
def registration (service : Service) (options : RegisterOptions) : Except Error String := do
  let function ← registrationFunction service
  let lines ← registrationTemplates.fill (registrationBindings service options function)
  return text lines.layout

end ServiceScaffold.Document
