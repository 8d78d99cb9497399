/-
Options of the generated documents.

Both documents import a container type from a library and name the container that is specialised
to the services; the registration document also says where the shared types are.  Every option is
a text that is copied into the documents unchanged.
-/

namespace ServiceScaffold

/-- Options of the shared types document. -/
structure TypesOptions where
  /-- The module that the container type is imported from. -/
  libraryPath : String := "@digen/container"
  /-- The container type. -/
  containerType : String := "Container"
  /-- The name of the container specialised to the services. -/
  contextType : String := "ServicesContainer"
deriving DecidableEq, Repr, Inhabited

/-- Options of the registration document. -/
structure RegisterOptions where
  /-- The module that the container type is imported from. -/
  libraryPath : String := "@digen/container"
  /-- The container type. -/
  containerType : String := "Container"
  /-- The name of the container specialised to the services. -/
  contextType : String := "ServicesContainer"
  /-- The module of the shared types, as seen from a registration file. -/
  typesModule : String := "./types"
deriving DecidableEq, Repr, Inhabited

end ServiceScaffold
