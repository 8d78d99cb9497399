/-
The run that a `generate` command asks for.

The services on the command line win over those of the config document.  The document is the one
that is asked for or else the conventional one of the working directory, and it is read in any
case: it still gives the output directory and the options.  A flag wins over the document, and the
document over the defaults; the flags that both generated documents share go to both.

* `GenerateOptions.combineWith`, `GenerateOptions.combineAlone` — the command line with a document and
  without one.
* `resolve` — the run, with the document read from a `ConfigSource`.
-/
import ServiceScaffold.Command.Arguments
import ServiceScaffold.Command.Failure
import ServiceScaffold.Config.Source

namespace ServiceScaffold

/-- Where the services of a run come from. -/
inductive ServiceSource where
  | commandLine
  | configFile (path : Path)
  | nothing
deriving DecidableEq, Repr, Inhabited

/-- A run, with the source of its services. -/
structure ResolvedRun where
  config : RunConfig
  source : ServiceSource
deriving DecidableEq, Repr

/-- The output directory when neither a flag nor a document names one. -/
def defaultOutput : Path := ⟨"services"⟩

namespace GenerateOptions

/-- The options of the shared types, after the flags. -/
def overrideTypes (options : GenerateOptions) (types : TypesOptions) : TypesOptions where
  libraryPath := options.library.getD types.libraryPath
  containerType := options.containerType.getD types.containerType
  contextType := options.contextType.getD types.contextType

/-- The options of the registrations, after the flags. -/
def overrideRegister (options : GenerateOptions) (register : RegisterOptions) :
    RegisterOptions where
  libraryPath := options.library.getD register.libraryPath
  containerType := options.containerType.getD register.containerType
  contextType := options.contextType.getD register.contextType
  typesModule := options.typesModule.getD register.typesModule

/-- The command line, with its services read, over the config document in a file. -/
def combineWith (options : GenerateOptions) (services : List Service) (file : Path)
    (document : ConfigDocument) : ResolvedRun where
  config := {
    output := options.output.getD document.output
    services := if services.isEmpty then document.services else services
    types := options.overrideTypes document.types
    register := options.overrideRegister document.register }
  source := if services.isEmpty then .configFile file else .commandLine

/-- The command line, with its services read, when there is no config document. -/
def combineAlone (options : GenerateOptions) (services : List Service) : ResolvedRun where
  config := {
    output := options.output.getD defaultOutput
    services := services
    types := options.overrideTypes {}
    register := options.overrideRegister {} }
  source := if services.isEmpty then .nothing else .commandLine

end GenerateOptions

variable {m : Type → Type} [Monad m]

/-- The config document to read: the one that is asked for, seen from `directory`, or the
conventional one there. -/
def configFileOf (source : ConfigSource m) (asked : Option Path) (directory : Path) :
    m (Option Path) :=
  match asked with
  | some path => pure (some (directory.join path))
  | none => source.discover directory

/-- The run that a command asks for.  A service that cannot be read is reported before the
document is looked at. -/
def resolve (source : ConfigSource m) (options : GenerateOptions) (asked : Option Path)
    (directory : Path) : m (Except CommandError ResolvedRun) := do
  match Service.ofSpecs options.services with
  | .error e => return .error (.core e)
  | .ok services =>
    match ← configFileOf source asked directory with
    | none => return .ok (options.combineAlone services)
    | some file =>
      match ← source.load file with
      | .error e => return .error (.config e)
      | .ok document => return .ok (options.combineWith services file document)

end ServiceScaffold
