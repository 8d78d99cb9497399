/-
The generated documents, line by line.

A document is put together from filled templates, from blocks within blocks whose lines move to the
right, and from braces that no template can hold.  What comes out is fixed text with the words of
the service and of the options in it, each copied as it stands, and it comes out for all of them:
a word with braces, quotes or line breaks in it is no exception.

* `typesContent`, `registrationContent` — the lines of the two documents.
* `layout_registrationLines` — the blocks, laid out, are these lines.
* `documents_eq` — the file name and both documents of every service.
-/
import ServiceScaffold.Document.Text

namespace ServiceScaffold.Document

/-! ### The lines -/

/-- The lines of the shared types document. -/
def typesContent (options : TypesOptions) : List String :=
  [ "import \x7b " ++ options.containerType ++ " \x7d from '" ++ options.libraryPath ++ "';",
    "export interface ServicesList \x7b\x7d",
    "export type " ++ options.contextType ++ " = " ++ options.containerType ++ "<ServicesList>;" ]

/-- The lines of the registration document. -/
def registrationContent (service : Service) (options : RegisterOptions) : List String :=
  [ "import \x7b " ++ options.containerType ++ " \x7d from '" ++ options.libraryPath ++ "';",
    "import type \x7b " ++ options.contextType ++ " \x7d from '" ++ options.typesModule ++ "';",
    "",
    "export interface " ++ service.interface ++ " \x7b",
    "  // describe the " ++ service.interface ++ " contract here",
    "\x7d",
    "",
    "declare module '" ++ options.typesModule ++ "' \x7b",
    "  interface ServicesList \x7b",
    "    " ++ Naming.camel service.name ++ ": " ++ service.interface ++ ";",
    "  \x7d",
    "\x7d",
    "",
    "export default function register" ++ Naming.pascal service.name ++
      "(container: " ++ options.contextType ++ ") \x7b",
    "  container.bind('" ++ Naming.camel service.name ++ "', \x7b",
    "    // provide the " ++ service.interface ++ " implementation here",
    "  \x7d);",
    "\x7d",
    "",
    "export function mock(container: " ++ options.contextType ++ ") \x7b",
    "  container.bind('" ++ Naming.camel service.name ++ "', \x7b",
    "    // provide a " ++ service.interface ++ " mock here",
    "  \x7d);",
    "\x7d",
    "",
    "register" ++ Naming.pascal service.name ++ ".mock = mock;" ]

/-! ### Templates and blocks make these lines -/

theorem append_literals {first second both : String} (h : first ++ second = both) (s : String) :
    s ++ first ++ second = s ++ both := by
  rw [String.append_assoc, h]

theorem typesText_eq (options : TypesOptions) :
    typesText options = String.join ((typesContent options).map (· ++ "\n")) := by
  have hfrom := append_literals (rfl : " \x7d" ++ " from '" = " \x7d from '")
  simp only [typesText, text, importClause, typesContent, ← String.append_assoc,
    String.reduceAppend, hfrom]

theorem layout_registrationLines (service : Service) (options : RegisterOptions) :
    (registrationLines service options).layout = registrationContent service options := by
  -- fixed text meets fixed text where a brace follows a template
  have hfrom := append_literals (rfl : " \x7d" ++ " from '" = " \x7d from '")
  have hmodule := append_literals (rfl : "'" ++ " \x7b" = "' \x7b")
  have hbind := append_literals (rfl : "'," ++ " \x7b" = "', \x7b")
  have hfunction := append_literals (rfl : ")" ++ " \x7b" = ") \x7b")
  simp only [registrationLines, RegistrationLines.layout, block, indent, importClause,
    registrationFunctionName, registrationContent, List.map_cons, List.map_nil, List.cons_append,
    List.nil_append, ← String.append_assoc, String.reduceAppend, hfrom, hmodule, hbind, hfunction]

theorem registrationText_eq (service : Service) (options : RegisterOptions) :
    registrationText service options =
      String.join ((registrationContent service options).map (· ++ "\n")) := by
  rw [registrationText, text, layout_registrationLines]

/-! ### Every service -/

/-- Neither the file name nor a document of a service ever fails, and each is plain text with the
words of the service and of the options in it. -/
theorem documents_eq (service : Service) (typesOptions : TypesOptions)
    (options : RegisterOptions) :
    registrationFileName service = .ok ("register" ++ Naming.pascal service.name ++ ".ts") ∧
      types typesOptions = .ok (String.join ((typesContent typesOptions).map (· ++ "\n"))) ∧
      registration service options =
        .ok (String.join ((registrationContent service options).map (· ++ "\n"))) := by
  refine ⟨?_, ?_, ?_⟩
  · rw [registrationFileName_eq, registrationName]
  · rw [types_eq, typesText_eq]
  · rw [registration_eq, registrationText_eq]

-- the words of a service, and of options that are not chosen, at their places
example : registrationContent ⟨"userService", "IUserService", by decide⟩ {} =
    [ "import \x7b Container \x7d from '@digen/container';",
      "import type \x7b ServicesContainer \x7d from './types';",
      "",
      "export interface IUserService \x7b",
      "  // describe the IUserService contract here",
      "\x7d",
      "",
      "declare module './types' \x7b",
      "  interface ServicesList \x7b",
      "    userService: IUserService;",
      "  \x7d",
      "\x7d",
      "",
      "export default function registerUserService(container: ServicesContainer) \x7b",
      "  container.bind('userService', \x7b",
      "    // provide the IUserService implementation here",
      "  \x7d);",
      "\x7d",
      "",
      "export function mock(container: ServicesContainer) \x7b",
      "  container.bind('userService', \x7b",
      "    // provide a IUserService mock here",
      "  \x7d);",
      "\x7d",
      "",
      "registerUserService.mock = mock;" ] := by
  decide +kernel

end ServiceScaffold.Document
