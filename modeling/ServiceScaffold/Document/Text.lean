/-
The documents as plain texts.

Every template of the two documents parses, and every placeholder in them is bound, so that neither
a document nor a file name ever fails: each is a concatenation of fixed text with the options, the
interface and the converted name.

* `registrationName` — the file name of a registration; `registrationFileName_eq`.
* `typesText` — the shared types document; `types_eq`.
* `registrationText` — the registration document; `registration_eq`.
-/
import ServiceScaffold.Document

namespace ServiceScaffold.Document

open Template

theorem ok_bind {α β : Type} (a : α) (f : α → Except Error β) : (Except.ok a >>= f) = f a :=
  rfl

/-! ### The registration file -/

/-- The file that the registration of a service goes to. -/
def registrationName (service : Service) : String :=
  "register" ++ Naming.pascal service.name ++ ".ts"

/-- The function that registers a service. -/
def registrationFunctionName (service : Service) : String :=
  "register" ++ Naming.pascal service.name

theorem registrationFileName_eq (service : Service) :
    registrationFileName service = .ok (registrationName service) := by
  have hparse : parse "register\x7bName\x7d.ts" =
      .ok [.literal "register", .parameter "Name", .literal ".ts"] := rfl
  rw [registrationFileName, parameterize, fill_of_parse hparse]
  simp [render, Part.render, nameBindings_get?, NamingCase.convert, registrationName,
    String.append_assoc]

theorem registrationFunction_eq (service : Service) :
    registrationFunction service = .ok (registrationFunctionName service) := by
  have hparse : parse "register\x7bName\x7d" = .ok [.literal "register", .parameter "Name"] := rfl
  rw [registrationFunction, parameterize, fill_of_parse hparse]
  simp [render, Part.render, nameBindings_get?, NamingCase.convert, registrationFunctionName]

/-! ### The shared types -/

/-- The text of the shared types document. -/
def typesText (options : TypesOptions) : String :=
  text
    [ "import " ++ importClause options.containerType ++ " from '" ++ options.libraryPath ++ "';",
      "export interface ServicesList \x7b\x7d",
      "export type " ++ options.contextType ++ " = " ++ options.containerType ++ "<ServicesList>;" ]

theorem types_eq (options : TypesOptions) : types options = .ok (typesText options) := by
  have himport : parse "import \x7bimports\x7d from '\x7blibrary\x7d';" =
      .ok [.literal "import ", .parameter "imports", .literal " from '", .parameter "library",
        .literal "';"] := rfl
  have hlist : parse "export interface \x7blist\x7d \x7bempty\x7d" =
      .ok [.literal "export interface ", .parameter "list", .literal " ", .parameter "empty"] := rfl
  have hcontext : parse "export type \x7bcontext\x7d = \x7bcontainer\x7d<\x7blist\x7d>;" =
      .ok [.literal "export type ", .parameter "context", .literal " = ", .parameter "container",
        .literal "<", .parameter "list", .literal ">;"] := rfl
  simp [types, typesText, fillAll, fill_of_parse himport, fill_of_parse hlist,
    fill_of_parse hcontext, render, Part.render, typesBindings, Bindings.ofList,
    Bindings.get?_insert, servicesList, String.append_assoc]

/-! ### The registration -/

/-- The lines of the registration document, filled. -/
def registrationLines (service : Service) (options : RegisterOptions) : RegistrationLines where
  importContainer :=
    "import " ++ importClause options.containerType ++ " from '" ++ options.libraryPath ++ "';"
  importContext :=
    "import type " ++ importClause options.contextType ++ " from '" ++ options.typesModule ++ "';"
  interfaceHeader := "export interface " ++ service.interface
  interfaceNote := "// describe the " ++ service.interface ++ " contract here"
  listHeader := "interface ServicesList"
  listMember := Naming.camel service.name ++ ": " ++ service.interface ++ ";"
  moduleHeader := "declare module '" ++ options.typesModule ++ "'"
  bindHeader := "container.bind('" ++ Naming.camel service.name ++ "',"
  implementationNote := "// provide the " ++ service.interface ++ " implementation here"
  functionHeader :=
    "export default function " ++ registrationFunctionName service ++ "(container: " ++
      options.contextType ++ ")"
  mockNote := "// provide a " ++ service.interface ++ " mock here"
  mockHeader := "export function mock(container: " ++ options.contextType ++ ")"
  attachMock := registrationFunctionName service ++ ".mock = mock;"

/-- The text of the registration document. -/
def registrationText (service : Service) (options : RegisterOptions) : String :=
  text (registrationLines service options).layout

/-- Each of the templates of the registration document, in parts. -/
theorem registrationTemplates_fill (bindings : Bindings) :
    registrationTemplates.fill bindings = (do
      return {
        importContainer := ← render bindings
          [.literal "import ", .parameter "container_imports", .literal " from '",
            .parameter "library", .literal "';"]
        importContext := ← render bindings
          [.literal "import type ", .parameter "context_imports", .literal " from '",
            .parameter "types_module", .literal "';"]
        interfaceHeader := ← render bindings [.literal "export interface ", .parameter "interface"]
        interfaceNote := ← render bindings
          [.literal "// describe the ", .parameter "interface", .literal " contract here"]
        listHeader := ← render bindings [.literal "interface ", .parameter "list"]
        listMember := ← render bindings
          [.parameter "key", .literal ": ", .parameter "interface", .literal ";"]
        moduleHeader := ← render bindings
          [.literal "declare module '", .parameter "types_module", .literal "'"]
        bindHeader := ← render bindings
          [.literal "container.bind('", .parameter "key", .literal "',"]
        implementationNote := ← render bindings
          [.literal "// provide the ", .parameter "interface", .literal " implementation here"]
        functionHeader := ← render bindings
          [.literal "export default function ", .parameter "register", .literal "(container: ",
            .parameter "context", .literal ")"]
        mockNote := ← render bindings
          [.literal "// provide a ", .parameter "interface", .literal " mock here"]
        mockHeader := ← render bindings
          [.literal "export function mock(container: ", .parameter "context", .literal ")"]
        attachMock := ← render bindings [.parameter "register", .literal ".mock = mock;"] }) := by
  rfl

theorem registrationTemplates_fill_bindings (service : Service) (options : RegisterOptions) :
    registrationTemplates.fill
        (registrationBindings service options (registrationFunctionName service)) =
      .ok (registrationLines service options) := by
  rw [registrationTemplates_fill]
  simp [registrationLines, render, Part.render, registrationBindings, Bindings.ofList,
    Bindings.get?_insert, servicesList, NamingCase.convert, String.append_assoc, ok_bind, pure,
    Except.pure]

theorem registration_eq (service : Service) (options : RegisterOptions) :
    registration service options = .ok (registrationText service options) := by
  rw [registration, registrationFunction_eq, ok_bind, registrationTemplates_fill_bindings, ok_bind]
  rfl

end ServiceScaffold.Document
